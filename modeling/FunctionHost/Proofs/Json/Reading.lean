-- SUMMARY: Reading the compact text of a JSON value gives the value back.
import FunctionHost.Json.Parse
import FunctionHost.Json.Print
import FunctionHost.Proofs.Number.Decimal

/-! # Reading printed values

Every value is read back from its compact text: strings with whatever characters they hold, strings
without a text, numerals of every form, and the members of an object in their order. A number is the
only value whose end is not marked, so what stands behind a value matters to it alone. -/

namespace FunctionHost.Json

/-! ## Strings -/

theorem hexValue?_hexDigit {n : Nat} (h : n < 16) : Text.hexValue? (hexDigit n) = some n := by
  revert n
  decide

/-- The controls that have an escape letter. -/
def lettered : List Char :=
  ['\x08', '\x0c', '\n', '\r', '\t']

/-- What the reader finds where a character was written. -/
def partOf (c : Char) : Part :=
  if c.toNat < 0x20 ∧ c ∉ lettered then .coded c.toNat else .plain c

theorem code?_control {n : Nat} (h : n < 0x20) :
    code? '0' '0' (hexDigit (n / 16)) (hexDigit (n % 16)) = some n := by
  have hzero : Text.hexValue? '0' = some 0 := by decide
  have hhigh : Text.hexValue? (hexDigit (n / 16)) = some (n / 16) :=
    hexValue?_hexDigit (by omega)
  have hlow : Text.hexValue? (hexDigit (n % 16)) = some (n % 16) := hexValue?_hexDigit (by omega)
  have hvalue : n / 16 * 16 + n % 16 = n := by omega
  simp [code?, hzero, hhigh, hlow, hvalue]

theorem parts?_plain {c : Char} (done : List Part) (rest : List Char) (hquote : c ≠ '\x22')
    (hslash : c ≠ '\\') (hcontrol : ¬ c.toNat < 0x20) :
    parts? done (c :: rest) = parts? (.plain c :: done) rest := by
  rw [parts?, if_neg hcontrol]
  · exact hquote
  · simp [hslash]
  · simp [hslash]

theorem parts?_escape (done : List Part) (c : Char) (rest : List Char) :
    parts? done (escape c ++ rest) = parts? (partOf c :: done) rest := by
  unfold escape
  split
  case h_8 hquote hslash hb hf hn hr ht =>
    have hletter : c ∉ lettered := by simp_all [lettered]
    split
    · next hc =>
      simp only [List.cons_append, List.nil_append, partOf, if_pos (And.intro hc hletter)]
      rw [parts?, code?_control hc]
    · next hc =>
      rw [partOf, if_neg (fun h => hc h.1)]
      exact parts?_plain done rest hquote hslash hc
  all_goals rfl

theorem parts?_flatMap_escape (done : List Part) (text : List Char) (rest : List Char) :
    parts? done (text.flatMap escape ++ '\x22' :: rest) =
      some (done.reverse ++ text.map partOf, rest) := by
  induction text generalizing done with
  | nil => simp [parts?]
  | cons c text ih =>
    rw [List.flatMap_cons, List.append_assoc, parts?_escape, ih]
    simp

/-- A code unit of no surrogate pair stands for the character with its number. -/
theorem joinParts?_coded {n : Nat} (h : n < 0xD800) (done : List Char) (rest : List Part) :
    joinParts? done (.coded n :: rest) = joinParts? (Char.ofNat n :: done) rest := by
  have hhigh : isHighHalf n = false := by
    rw [isHighHalf, decide_eq_false (show ¬ 0xD800 ≤ n by omega), Bool.false_and]
  have hlow : isLowHalf n = false := by
    rw [isLowHalf, decide_eq_false (show ¬ 0xDC00 ≤ n by omega), Bool.false_and]
  cases rest with
  | nil => simp [joinParts?, hhigh, hlow]
  | cons part rest => cases part <;> simp [joinParts?, hhigh, hlow]

theorem joinParts?_partOf (done : List Char) (c : Char) (rest : List Part) :
    joinParts? done (partOf c :: rest) = joinParts? (c :: done) rest := by
  unfold partOf
  split
  · next h => rw [joinParts?_coded (show c.toNat < 0xD800 by omega), Char.ofNat_toNat]
  · next h => rw [joinParts?]

theorem joinParts?_map_partOf (done text : List Char) :
    joinParts? done (text.map partOf) = some (done.reverse ++ text) := by
  induction text generalizing done with
  | nil => simp [joinParts?]
  | cons c text ih =>
    rw [List.map_cons, joinParts?_partOf, ih]
    simp

/-- A printed string is read back, also one without a text. -/
theorem quoted?_printText (text : Option String) (rest : List Char) :
    ∃ inner, printText text ++ rest = '\x22' :: inner ∧ quoted? inner = some (text, rest) := by
  cases text with
  | none => exact ⟨_, rfl, rfl⟩
  | some text =>
    refine ⟨text.toList.flatMap escape ++ '\x22' :: rest, by simp [printText], ?_⟩
    simp [quoted?, parts?_flatMap_escape, joinParts?_map_partOf]

/-! ## Numbers -/

/-- Whether a text may stand behind a value: it is empty, or goes on with what separates or ends
    the parts of another value. -/
def MayFollow (rest : List Char) : Prop :=
  ∀ c ∈ rest.head?, c ∈ [',', ']', '\x7d']

theorem mayFollow_nil : MayFollow [] := by
  intro c h
  cases h

theorem mayFollow_cons {c : Char} (h : c ∈ [',', ']', '\x7d']) (rest : List Char) :
    MayFollow (c :: rest) := by
  intro first hfirst
  cases hfirst
  exact h

theorem digits_append {ds rest : List Char} (hds : ∀ c ∈ ds, c.isDigit = true)
    (hrest : ∀ c ∈ rest.head?, c.isDigit = false) : digits (ds ++ rest) = (ds, rest) := by
  have hstop : rest.takeWhile Char.isDigit = [] ∧ rest.dropWhile Char.isDigit = rest := by
    cases rest with
    | nil => exact ⟨rfl, rfl⟩
    | cons c rest => simp [hrest c rfl]
  rw [digits, List.takeWhile_append_of_pos hds, List.dropWhile_append_of_pos hds, hstop.1,
    hstop.2, List.append_nil]

/-- The decimal digits of a number. -/
def decimal (n : Nat) : List Char :=
  (toString n).toList

theorem decimal_eq (n : Nat) : decimal n = Nat.toDigits 10 n := by
  rw [decimal, Nat.toString_eq_repr, Nat.toList_repr]

theorem ofDigits_decimal (n : Nat) : ofDigits (decimal n) = n := by
  have hfold : ofDigits (decimal n) = Nat.ofDigitChars 10 (Nat.toDigits 10 n) 0 := by
    rw [Nat.ofDigitChars_eq_foldl, decimal_eq]
    simp only [ofDigits, Nat.mul_comm]
    rfl
  rw [hfold, Nat.ofDigitChars_ten_toDigits]

theorem decimal_ne_nil (n : Nat) : decimal n ≠ [] := by
  rw [decimal_eq]
  exact Nat.toDigits_ne_nil

/-- A number of several digits does not begin with a zero. -/
theorem head?_decimal {n : Nat} (h : (decimal n).length ≠ 1) : (decimal n).head? ≠ some '0' := by
  have hpositive (n : Nat) (h : n ≠ 0) : (decimal n).head? ≠ some '0' := by
    induction n using Nat.strongRecOn with
    | ind n ih =>
      rw [decimal_eq]
      by_cases hlt : n < 10
      · rw [Nat.toDigits_of_lt_base hlt]
        simpa using h
      · obtain ⟨d, ds, hcons⟩ := List.exists_cons_of_ne_nil (decimal_ne_nil (n / 10))
        have hfirst := ih (n / 10) (by omega) (by omega)
        rw [Nat.toDigits_of_base_le (by omega) (by omega), ← decimal_eq, hcons]
        rwa [hcons] at hfirst
  refine hpositive n fun hzero => ?_
  subst hzero
  exact h (by decide)

theorem decimal_cons (n : Nat) : ∃ d ds, decimal n = d :: ds ∧ d.isDigit = true := by
  obtain ⟨d, ds, hcons⟩ := List.exists_cons_of_ne_nil (decimal_ne_nil n)
  exact ⟨d, ds, hcons, Number.isDigit_of_mem_natural (n := n) (by
    show d ∈ decimal n
    rw [hcons]
    exact List.mem_cons_self)⟩

theorem digits_decimal (n : Nat) {rest : List Char}
    (hrest : ∀ c ∈ rest.head?, c.isDigit = false) : digits (decimal n ++ rest) = (decimal n, rest) :=
  digits_append (fun _ => Number.isDigit_of_mem_natural) hrest

theorem exponentDigits?_decimal (negative : Bool) (n : Nat) {rest : List Char}
    (hrest : ∀ c ∈ rest.head?, c.isDigit = false) :
    exponentDigits? negative (decimal n ++ rest) =
      some (some (if negative then -(n : Int) else n), rest) := by
  have hne := decimal_ne_nil n
  rw [exponentDigits?, digits_decimal n hrest]
  split
  · next heq => exact absurd (congrArg Prod.fst heq) hne
  · next heq =>
    cases heq
    simp only [ofDigits_decimal]

theorem exponent?_print (e : Int) {rest : List Char}
    (hrest : ∀ c ∈ rest.head?, c.isDigit = false) :
    exponent? ('e' :: (toString e).toList ++ rest) = some (some e, rest) := by
  cases e with
  | ofNat n =>
    obtain ⟨d, ds, hcons, hd⟩ := decimal_cons n
    have hminus : d ≠ '-' := by rintro rfl; cases hd
    have hplus : d ≠ '+' := by rintro rfl; cases hd
    have hread := exponentDigits?_decimal false n hrest
    show exponent? ('e' :: decimal n ++ rest) = _
    rw [hcons] at hread ⊢
    simpa [exponent?, hminus, hplus] using hread
  | negSucc n =>
    have htext : (toString (Int.negSucc n)).toList = '-' :: decimal (n + 1) := by
      simp [toString, Int.repr, decimal]
    rw [htext]
    simpa [exponent?, Int.negSucc_eq] using exponentDigits?_decimal true (n + 1) hrest

theorem fraction?_of_head {cs : List Char} (h : cs.head? ≠ some '.') :
    fraction? cs = some (none, cs) := by
  rw [fraction?.eq_def]
  split
  · exact absurd rfl h
  · rfl

theorem exponent?_of_head {cs : List Char} (h : ∀ c ∈ cs.head?, c ≠ 'e' ∧ c ≠ 'E') :
    exponent? cs = some (none, cs) := by
  cases cs with
  | nil => rfl
  | cons c rest => simp [exponent?, h c rfl]

/-- The whole part of a printed number has digits and no leading zero. -/
theorem decimal_accepted (n : Nat) :
    decimal n ≠ [] ∧ ((decimal n).length ≠ 1 → (decimal n).head? ≠ some '0') :=
  ⟨decimal_ne_nil n, head?_decimal⟩

/-- A number without a point: its digits, and then perhaps an exponent. -/
theorem magnitude?_decimal (negative : Bool) (n : Nat) {exponent : Option Int}
    {cs rest : List Char} (hdigit : ∀ c ∈ cs.head?, c.isDigit = false)
    (hpoint : cs.head? ≠ some '.') (hexponent : exponent? cs = some (exponent, rest)) :
    magnitude? negative (decimal n ++ cs) = some (⟨negative, n, exponent⟩, rest) := by
  have hwhole := decimal_accepted n
  cases exponent with
  | none =>
    simpa [magnitude?, digits_decimal n hdigit, fraction?_of_head hpoint, hexponent,
      ofDigits_decimal] using hwhole
  | some e =>
    simpa [magnitude?, digits_decimal n hdigit, fraction?_of_head hpoint, hexponent,
      ofDigits_decimal] using hwhole

/-- The exponent of a number as it is written. -/
def printExponent : Option Int → List Char
  | none => []
  | some e => 'e' :: (toString e).toList

theorem print_eq (n : Numeral) :
    n.print = (if n.negative then ['-'] else []) ++
      (decimal n.coefficient ++ printExponent n.exponent) := by
  obtain ⟨negative, coefficient, exponent⟩ := n
  cases exponent <;> simp [Numeral.print, decimal, printExponent]

/-- A printed number without its sign is read back. -/
theorem magnitude?_print (n : Numeral) {rest : List Char} (hrest : MayFollow rest) :
    magnitude? n.negative (decimal n.coefficient ++ (printExponent n.exponent ++ rest)) =
      some (n, rest) := by
  have hplain {c : Char} (hc : c ∈ rest.head?) : c.isDigit = false ∧ c ≠ 'e' ∧ c ≠ 'E' := by
    have hmem := hrest c hc
    simp only [List.mem_cons, List.not_mem_nil, or_false] at hmem
    rcases hmem with rfl | rfl | rfl <;> exact ⟨rfl, by decide, by decide⟩
  have hdigit : ∀ c ∈ rest.head?, c.isDigit = false := fun c hc => (hplain hc).1
  obtain ⟨negative, coefficient, exponent⟩ := n
  cases exponent with
  | none =>
    have hpoint : rest.head? ≠ some '.' := fun h => by simpa using hrest _ h
    exact magnitude?_decimal negative coefficient hdigit hpoint
      (exponent?_of_head fun c hc => (hplain hc).2)
  | some e =>
    refine magnitude?_decimal negative coefficient ?_ ?_ (exponent?_print e hdigit)
    · rintro c hc
      cases hc
      rfl
    · simp [printExponent]

/-- How a printed number begins. -/
theorem numeral_starts (n : Numeral) :
    ∃ c cs, n.print = c :: cs ∧ (c = '-' ∨ c.isDigit = true) := by
  obtain ⟨d, ds, hcons, hd⟩ := decimal_cons n.coefficient
  rw [print_eq, hcons]
  cases n.negative with
  | true => exact ⟨_, _, rfl, .inl rfl⟩
  | false => exact ⟨_, _, rfl, .inr hd⟩

/-- A printed number is read back. -/
theorem numeral?_print (n : Numeral) {rest : List Char} (hrest : MayFollow rest) :
    numeral? (n.print ++ rest) = some (n, rest) := by
  have hmagnitude := magnitude?_print n hrest
  obtain ⟨d, ds, hcons, hd⟩ := decimal_cons n.coefficient
  rw [print_eq]
  cases hsign : n.negative with
  | true =>
    rw [hsign] at hmagnitude
    simpa [numeral?] using hmagnitude
  | false =>
    have hminus : d ≠ '-' := by
      rintro rfl
      cases hd
    rw [hsign, hcons] at hmagnitude
    simpa [numeral?, hcons, hminus] using hmagnitude

/-! ## Values -/

/-- The characters that a value begins with. -/
def starters : List Char :=
  "ntf\x22[\x7b-0123456789".toList

theorem isDigit_mem_starters {c : Char} (h : c.isDigit = true) : c ∈ starters := by
  have hcode : 48 ≤ c.toNat ∧ c.toNat ≤ 57 := by
    simpa [Char.isDigit, UInt32.le_iff_toNat_le] using h
  have hall : ∀ n, n < 10 → Char.ofNat (n + 48) ∈ starters := by decide
  have hback : c.toNat - 48 + 48 = c.toNat := by omega
  have hmem := hall (c.toNat - 48) (by omega)
  rwa [hback, Char.ofNat_toNat] at hmem

theorem number_mem_starters {c : Char} (h : c = '-' ∨ c.isDigit = true) : c ∈ starters := by
  rcases h with rfl | hd
  · decide
  · exact isDigit_mem_starters hd

theorem print_starts (v : Json) : ∃ c cs, print v = c :: cs ∧ c ∈ starters := by
  cases v with
  | null => exact ⟨_, _, rfl, by decide⟩
  | bool b => cases b <;> exact ⟨_, _, rfl, by decide⟩
  | number n =>
    obtain ⟨c, cs, hcons, hfirst⟩ := numeral_starts n
    exact ⟨c, cs, hcons, number_mem_starters hfirst⟩
  | string text => cases text <;> exact ⟨_, _, rfl, by decide⟩
  | array elements => exact ⟨_, _, rfl, by decide⟩
  | object members => exact ⟨_, _, rfl, by decide⟩

theorem length_print_pos (v : Json) : 0 < (print v).length := by
  obtain ⟨c, cs, hcons, -⟩ := print_starts v
  simp [hcons]

/-- A character that begins a value is no blank and does not end an array. -/
theorem starter_spec {c : Char} (h : c ∈ starters) : isBlank c = false ∧ c ≠ ']' := by
  have all : starters.all (fun c => !isBlank c && c != ']') = true := by decide
  simpa using List.all_eq_true.1 all c h

theorem skipBlanks_cons {c : Char} (h : isBlank c = false) (cs : List Char) :
    skipBlanks (c :: cs) = c :: cs := by
  rw [skipBlanks, List.dropWhile_cons_of_neg (by simp [h])]

/-- A text that begins like a number is read as one. -/
theorem value?_number {c : Char} (h : c = '-' ∨ c.isDigit = true) (fuel : Nat) (cs : List Char) :
    value? (fuel + 1) (c :: cs) = (numeral? (c :: cs)).map fun (n, after) => (.number n, after) := by
  rw [value?, skipBlanks_cons (starter_spec (number_mem_starters h)).1]
  split
  case h_7 => rfl
  all_goals
    next heq =>
      cases heq
      rcases h with h | h <;> cases h

theorem print_array (vs : List Json) (rest : List Char) :
    print (.array vs) ++ rest = '[' :: (printElements vs ++ ']' :: rest) := by
  simp [print]

theorem print_object (ms : List (Option String × Json)) (rest : List Char) :
    print (.object ms) ++ rest = '\x7b' :: (printMembers ms ++ '\x7d' :: rest) := by
  simp [print]

theorem printElements_cons (v w : Json) (vs : List Json) :
    printElements (v :: w :: vs) = print v ++ ',' :: printElements (w :: vs) :=
  rfl

theorem printMembers_cons (name : Option String) (v : Json) (m : Option String × Json)
    (ms : List (Option String × Json)) :
    printMembers ((name, v) :: m :: ms) =
      printText name ++ ':' :: (print v ++ ',' :: printMembers (m :: ms)) := by
  simp [printMembers]

/-- The text of an array with elements does not end at once. -/
theorem skipBlanks_printElements (v : Json) (vs : List Json) (rest : List Char) :
    ∃ c cs, skipBlanks (printElements (v :: vs) ++ rest) = c :: cs ∧ c ≠ ']' := by
  obtain ⟨c, cs, hcons, hstarter⟩ := print_starts v
  obtain ⟨tail, htail⟩ : ∃ tail, printElements (v :: vs) ++ rest = c :: tail := by
    cases vs with
    | nil => exact ⟨cs ++ rest, by rw [printElements, hcons]; rfl⟩
    | cons w vs => exact ⟨_, by rw [printElements_cons, hcons]; rfl⟩
  refine ⟨c, tail, ?_, (starter_spec hstarter).2⟩
  rw [htail, skipBlanks_cons (starter_spec hstarter).1]

/-- The text of an object with members begins with the quote of a name. -/
theorem printMembers_starts (name : Option String) (v : Json)
    (ms : List (Option String × Json)) :
    ∃ cs, printMembers ((name, v) :: ms) = '\x22' :: cs := by
  cases ms <;> cases name <;> exact ⟨_, rfl⟩

mutual

theorem value?_print : ∀ (v : Json) (fuel : Nat) (rest : List Char),
    2 * (print v).length ≤ fuel → MayFollow rest → value? fuel (print v ++ rest) = some (v, rest)
  | v, 0, _, hfuel, _ => absurd (length_print_pos v) (by omega)
  | .null, _ + 1, _, _, _ => rfl
  | .bool true, _ + 1, _, _, _ => rfl
  | .bool false, _ + 1, _, _, _ => rfl
  | .number n, fuel + 1, rest, _, hrest => by
    obtain ⟨c, cs, hcons, hfirst⟩ := numeral_starts n
    have hread := numeral?_print n hrest
    rw [hcons, List.cons_append] at hread
    rw [print, hcons, List.cons_append, value?_number hfirst, hread]
    rfl
  | .string text, fuel + 1, rest, _, _ => by
    obtain ⟨inner, hcons, hread⟩ := quoted?_printText text rest
    rw [print, hcons, value?, skipBlanks_cons (by decide)]
    simp [hread]
  | .array [], fuel + 1, rest, _, _ => rfl
  | .array (v :: vs), fuel + 1, rest, hfuel, _ => by
    have hread := elements?_print (v :: vs) fuel [] rest (by simp) (by
      rw [print] at hfuel
      simp only [List.length_cons, List.length_append, List.length_nil] at hfuel
      omega)
    obtain ⟨c, cs, hskip, hclosing⟩ := skipBlanks_printElements v vs (']' :: rest)
    rw [print_array, value?, skipBlanks_cons (by decide)]
    simp only [hskip]
    split
    · next heq =>
      cases heq
      exact absurd rfl hclosing
    · exact hread
  | .object [], fuel + 1, rest, _, _ => rfl
  | .object ((name, v) :: ms), fuel + 1, rest, hfuel, _ => by
    have hread := members?_print ((name, v) :: ms) fuel [] rest (by simp) (by
      rw [print] at hfuel
      simp only [List.length_cons, List.length_append, List.length_nil] at hfuel
      omega)
    obtain ⟨cs, hcons⟩ := printMembers_starts name v ms
    rw [print_object, value?, skipBlanks_cons (by decide)]
    rw [hcons] at hread ⊢
    simpa [skipBlanks_cons (c := '\x22') (by decide)] using hread

theorem elements?_print : ∀ (vs : List Json) (fuel : Nat) (done : List Json) (rest : List Char),
    vs ≠ [] → 2 * (printElements vs).length + 1 ≤ fuel →
    elements? fuel done (printElements vs ++ ']' :: rest) = some (.array (done.reverse ++ vs), rest)
  | _, 0, _, _, _, hfuel => absurd hfuel (by omega)
  | [], _, _, _, h, _ => absurd rfl h
  | [v], fuel + 1, done, rest, _, hfuel => by
    have hread := value?_print v fuel (']' :: rest) (by rw [printElements] at hfuel; omega)
      (mayFollow_cons (by decide) rest)
    rw [printElements, elements?, hread]
    simp [skipBlanks_cons (c := ']') (by decide)]
  | v :: w :: vs, fuel + 1, done, rest, _, hfuel => by
    rw [printElements_cons, List.length_append, List.length_cons] at hfuel
    have hread := value?_print v fuel (',' :: (printElements (w :: vs) ++ ']' :: rest)) (by omega)
      (mayFollow_cons (by decide) _)
    have hrest := elements?_print (w :: vs) fuel (v :: done) rest (by simp) (by omega)
    rw [printElements_cons, List.append_assoc, List.cons_append, elements?, hread]
    simp only [skipBlanks_cons (c := ',') (by decide)]
    rw [hrest]
    simp

theorem members?_print : ∀ (ms : List (Option String × Json)) (fuel : Nat)
    (done : List (Option String × Json)) (rest : List Char),
    ms ≠ [] → 2 * (printMembers ms).length + 1 ≤ fuel →
    members? fuel done (printMembers ms ++ '\x7d' :: rest) =
      some (.object (done.reverse ++ ms), rest)
  | _, 0, _, _, _, hfuel => absurd hfuel (by omega)
  | [], _, _, _, h, _ => absurd rfl h
  | [(name, v)], fuel + 1, done, rest, _, hfuel => by
    rw [printMembers, List.length_append, List.length_cons] at hfuel
    have hread := value?_print v fuel ('\x7d' :: rest) (by omega) (mayFollow_cons (by decide) rest)
    obtain ⟨inner, hname, hquoted⟩ := quoted?_printText name (':' :: (print v ++ '\x7d' :: rest))
    rw [printMembers, List.append_assoc, List.cons_append, hname, members?,
      skipBlanks_cons (by decide)]
    simp only [hquoted, skipBlanks_cons (c := ':') (by decide), hread,
      skipBlanks_cons (c := '\x7d') (by decide)]
    simp
  | (name, v) :: m :: ms, fuel + 1, done, rest, _, hfuel => by
    rw [printMembers_cons, List.length_append, List.length_cons, List.length_append,
      List.length_cons] at hfuel
    have hread := value?_print v fuel (',' :: (printMembers (m :: ms) ++ '\x7d' :: rest))
      (by omega) (mayFollow_cons (by decide) _)
    have hrest := members?_print (m :: ms) fuel ((name, v) :: done) rest (by simp) (by omega)
    obtain ⟨inner, hname, hquoted⟩ := quoted?_printText name
      (':' :: (print v ++ ',' :: (printMembers (m :: ms) ++ '\x7d' :: rest)))
    rw [printMembers_cons, List.append_assoc, List.cons_append, List.append_assoc,
      List.cons_append, hname, members?, skipBlanks_cons (by decide)]
    simp only [hquoted, skipBlanks_cons (c := ':') (by decide), hread,
      skipBlanks_cons (c := ',') (by decide)]
    rw [hrest]
    simp

end

/-- Reading the compact text of a value gives the value back. -/
theorem parse?_render (v : Json) : parse? (render v) = some v := by
  have hread := value?_print v (2 * (print v).length + 1) [] (by omega) mayFollow_nil
  rw [List.append_nil] at hread
  simp [parse?, render, hread, skipBlanks]

/-- A readable value of bounded depth is also the value of its text as a document. -/
theorem document?_render {v : Json} (hreadable : v.isReadable = true)
    (hdepth : v.depth ≤ maxDepth) : document? (render v) = some v := by
  simp [document?, parse?_render, hreadable, hdepth]

end FunctionHost.Json
