import ShaderCombos.Json.Printer
import ShaderCombos.Json.Reader
import ShaderCombos.Proofs.Text.Digits

/-!
# `Proofs.Json.RoundTrip` — values that are written and read back

A value is read back from its text (`ofText?_pretty`) if it is *plain*: its strings have texts and its
numerals are integers. Those are the values that anyone writes.

Each reader is shown to take just what was written from the front of a text and to leave the rest. A string ends
with its quote whatever follows; a numeral ends where no character of a numeral follows (`EndsNumeral`). For a
value the statement is `ReadsBack`, over any indentation and with as many levels as the text has room for, and it
goes by induction on the value; the items of an array and the members of an object have a lemma each for the
reading of one after another.

## Contents
- **Strings.** `stringRest?_escapeChar`, `string?_escaped`.
- **Numerals.** `EndsNumeral`, `numeral?_toString`.
- **Layout.** `skipBlanks_newLine`, `exists_head_prettyAt`.
- **Values.** `Plain`, `ReadsBack`, `readItems?_prettyItems`, `readMembers?_prettyMembers`, `readsBack`.
- **Texts.** `ofText?_pretty`.
-/

namespace ShaderCombos.Json

variable {rest s : List Char}

/-! ## Strings -/

/-- How a character stands in a string literal: a control character without a letter of its own is escaped
    by its number. -/
def escapedUnit (c : Char) : StringUnit :=
  if c.toNat < 0x20 ∧ c ∉ ['\n', '\r', '\t', '\x08', '\x0c'] then .unit c.toNat else .char c

/-- What a string holds with one more unit in front. -/
def consUnit (unit : StringUnit) (read : List StringUnit × List Char) : List StringUnit × List Char :=
  (unit :: read.1, read.2)

theorem stringRest?_simple {c letter : Char} (hletter : letter ≠ 'u')
    (hread : simpleEscape? letter = some c) (rest : List Char) :
    stringRest? ('\\' :: letter :: rest) = (stringRest? rest).map (consUnit (.char c)) := by
  rw [stringRest?]
  · rw [hread]
    cases stringRest? rest <;> rfl
  · intro a b c' d more h
    exact absurd h hletter

theorem stringRest?_number {n : Nat} (h : n < 0x20) (rest : List Char) :
    stringRest? ('\\' :: 'u' :: '0' :: '0' :: hexDigit (n / 16) :: hexDigit (n % 16) :: rest)
      = (stringRest? rest).map (consUnit (.unit n)) := by
  have hall : ∀ n < 0x20, Text.readHex? ['0', '0', hexDigit (n / 16), hexDigit (n % 16)] = some n := by
    decide
  rw [stringRest?, hall n h]
  cases stringRest? rest <;> rfl

theorem stringRest?_plain {c : Char} (hquote : c ≠ '"') (hslash : c ≠ '\\') (hprints : ¬ c.toNat < 0x20)
    (rest : List Char) :
    stringRest? (c :: rest) = (stringRest? rest).map (consUnit (.char c)) := by
  rw [stringRest?]
  · simp only [hprints, hslash, decide_false, beq_iff_eq, Bool.false_or, if_false]
    cases stringRest? rest <;> rfl
  · exact hquote
  · intro a b c' d more h
    exact absurd h hslash
  · intro c' more h
    exact absurd h hslash

/-- **One character of a string is read back**, and the reading goes on behind it. -/
theorem stringRest?_escapeChar (c : Char) (rest : List Char) :
    stringRest? (escapeChar c ++ rest) = (stringRest? rest).map (consUnit (escapedUnit c)) := by
  by_cases hsimple : c ∈ ['"', '\\', '\n', '\r', '\t', '\x08', '\x0c']
  · simp only [List.mem_cons, List.not_mem_nil, or_false] at hsimple
    -- A letter or the character itself follows the backslash.
    rcases hsimple with rfl | rfl | rfl | rfl | rfl | rfl | rfl
    all_goals exact stringRest?_simple (by decide) rfl rest
  · simp only [List.mem_cons, List.not_mem_nil, or_false, not_or] at hsimple
    obtain ⟨hquote, hslash, hn, hr, ht, hb, hf⟩ := hsimple
    by_cases hcontrol : c.toNat < 0x20
    · have hescape : escapeChar c
          = ['\\', 'u', '0', '0', hexDigit (c.toNat / 16), hexDigit (c.toNat % 16)] := by
        simp [escapeChar, hcontrol]
      have hunit : escapedUnit c = .unit c.toNat := by
        simp [escapedUnit, hcontrol, hn, hr, ht, hb, hf]
      rw [hescape, hunit]
      exact stringRest?_number hcontrol rest
    · have hescape : escapeChar c = [c] := by
        simp [escapeChar, hcontrol]
      have hunit : escapedUnit c = .char c := by
        simp [escapedUnit, hcontrol]
      rw [hescape, hunit]
      exact stringRest?_plain hquote hslash hcontrol rest

/-- A unit that is no half of a surrogate pair stands for itself. -/
theorem combineUnits?_unit {n : Nat} (hhigh : isHighHalf n = false) (hlow : isLowHalf n = false)
    (units : List StringUnit) :
    combineUnits? (.unit n :: units) = (combineUnits? units).map (Char.ofNat n :: ·) := by
  cases units with
  | nil => simp [combineUnits?, hhigh, hlow]
  | cons next units =>
      cases next with
      | char c =>
          rw [combineUnits?]
          · simp [hhigh, hlow]
          · intro low more h
            cases h
      | unit low => rw [combineUnits?, hhigh, hlow, if_neg Bool.false_ne_true, if_neg Bool.false_ne_true]

theorem combineUnits?_cons (c : Char) (units : List StringUnit) :
    combineUnits? (escapedUnit c :: units) = (combineUnits? units).map (c :: ·) := by
  unfold escapedUnit
  split
  · next hcontrol =>
    have hhigh : isHighHalf c.toNat = false := by
      simp [isHighHalf]
      omega
    have hlow : isLowHalf c.toNat = false := by
      simp [isLowHalf]
      omega
    rw [combineUnits?_unit hhigh hlow, Char.ofNat_toNat]
  · rw [combineUnits?]

/-- Units that stand for characters make the text of the characters. -/
theorem combineUnits?_escapedUnit (s : List Char) : combineUnits? (s.map escapedUnit) = some s := by
  induction s with
  | nil => rfl
  | cons c s ih =>
      rw [List.map_cons, combineUnits?_cons, ih]
      rfl

/-- The units of a string are read up to its closing quote. -/
theorem stringRest?_escaped (s rest : List Char) :
    stringRest? (s.flatMap escapeChar ++ '"' :: rest) = some (s.map escapedUnit, rest) := by
  induction s with
  | nil => rfl
  | cons c s ih =>
      rw [List.flatMap_cons, List.append_assoc, stringRest?_escapeChar, ih]
      rfl

/-- **A string is read back**, whatever follows its closing quote. -/
theorem string?_escaped (s rest : List Char) :
    string? (s.flatMap escapeChar ++ '"' :: rest) = some (some (String.ofList s), rest) := by
  unfold string?
  rw [stringRest?_escaped]
  show some ((combineUnits? (s.map escapedUnit)).map String.ofList, rest) = _
  rw [combineUnits?_escapedUnit]
  rfl

/-! ## Numerals -/

/-- No character of a numeral follows. -/
def EndsNumeral (rest : List Char) : Prop :=
  ∀ c ∈ rest.head?, c.isDigit = false ∧ c ≠ '.' ∧ c ≠ 'e' ∧ c ≠ 'E'

theorem digits?_run {digits : List Char} (hdigits : ∀ c ∈ digits, c.isDigit = true) (hsome : digits ≠ [])
    (hrest : EndsNumeral rest) : digits? (digits ++ rest) = some (digits, rest) := by
  have htake : (digits ++ rest).takeWhile Char.isDigit = digits := by
    rw [List.takeWhile_append_of_pos hdigits]
    cases rest with
    | nil => simp
    | cons c rest =>
        have hc : c.isDigit = false := (hrest c rfl).1
        rw [List.takeWhile_cons_of_neg (by simp [hc]), List.append_nil]
  have hdrop : (digits ++ rest).dropWhile Char.isDigit = rest := by
    rw [List.dropWhile_append_of_pos hdigits]
    cases rest with
    | nil => rfl
    | cons c rest =>
        have hc : c.isDigit = false := (hrest c rfl).1
        rw [List.dropWhile_cons_of_neg (by simp [hc])]
  unfold digits?
  rw [htake, hdrop, if_neg (by simpa using hsome)]

theorem fraction?_of_ends (h : EndsNumeral rest) : fraction? rest = some rest := by
  cases rest with
  | nil => rfl
  | cons c rest =>
      have hc : c ≠ '.' := (h c rfl).2.1
      unfold fraction?
      split
      · next heq => exact absurd (List.cons.inj heq).1 hc
      · rfl

theorem exponent?_of_ends (h : EndsNumeral rest) : exponent? rest = some rest := by
  cases rest with
  | nil => rfl
  | cons c rest =>
      obtain ⟨-, -, he, hE⟩ := h c rfl
      unfold exponent?
      simp [he, hE]

/-- Digits are read back with their sign, if it is not a sign of zero. -/
theorem magnitude?_toDigits {negative : Bool} {n : Nat} (hsign : negative = true → n ≠ 0)
    (hrest : EndsNumeral rest) : magnitude? negative (Nat.toDigits 10 n ++ rest)
      = some (.integer (if negative then -(n : Int) else n), rest) := by
  have hdigits : digits? (Nat.toDigits 10 n ++ rest) = some (Nat.toDigits 10 n, rest) :=
    digits?_run (fun c hc => Text.isDigit_of_mem_toDigits hc) Nat.toDigits_ne_nil hrest
  have hzero : ¬ ((Nat.toDigits 10 n).length ≠ 1 ∧ (Nat.toDigits 10 n).head? = some '0') := by
    rintro ⟨hlength, hhead⟩
    rw [Text.eq_zero_of_head?_toDigits n hhead] at hlength
    exact hlength rfl
  unfold magnitude?
  simp only [hdigits, Option.bind_eq_bind, Option.bind_some, if_neg hzero, fraction?_of_ends hrest,
    exponent?_of_ends hrest, Text.readDecimal?_toDigits, ne_eq, not_true_eq_false, if_false]
  cases negative with
  | false => rfl
  | true => simp [hsign rfl]

theorem toList_toString_ofNat (n : Nat) : (toString (Int.ofNat n)).toList = Nat.toDigits 10 n :=
  Nat.toList_repr

theorem toList_toString_negSucc (n : Nat) :
    (toString (Int.negSucc n)).toList = '-' :: Nat.toDigits 10 (n + 1) := by
  show ("-" ++ (n + 1).repr).toList = _
  rw [String.toList_append, Nat.toList_repr]
  rfl

/-- What an integer begins with. -/
theorem exists_head_toString (n : Int) :
    ∃ c more, (toString n).toList = c :: more ∧ (c = '-' ∨ c.isDigit = true) := by
  cases n with
  | ofNat n =>
      obtain ⟨c, more, hdigits⟩ := List.exists_cons_of_ne_nil (Nat.toDigits_ne_nil (n := n) (b := 10))
      rw [toList_toString_ofNat]
      exact ⟨c, more, hdigits, Or.inr (Text.isDigit_of_mem_toDigits (n := n) (by simp [hdigits]))⟩
  | negSucc n => exact ⟨'-', _, toList_toString_negSucc n, Or.inl rfl⟩

/-- **An integer is read back.** -/
theorem numeral?_toString (n : Int) (hrest : EndsNumeral rest) :
    numeral? ((toString n).toList ++ rest) = some (.integer n, rest) := by
  cases n with
  | ofNat n =>
      have hread : magnitude? false (Nat.toDigits 10 n ++ rest) = some (.integer n, rest) :=
        magnitude?_toDigits (by simp) hrest
      rw [toList_toString_ofNat]
      unfold numeral?
      split
      · next more heq =>
        -- A digit is no minus sign.
        have hdigit : Char.isDigit '-' = true := by
          obtain ⟨c, digits, hdigits⟩ :=
            List.exists_cons_of_ne_nil (Nat.toDigits_ne_nil (n := n) (b := 10))
          rw [hdigits, List.cons_append] at heq
          rw [← (List.cons.inj heq).1]
          exact Text.isDigit_of_mem_toDigits (n := n) (by simp [hdigits])
        cases hdigit
      · exact hread
  | negSucc n =>
      rw [toList_toString_negSucc]
      exact magnitude?_toDigits (fun _ => Nat.succ_ne_zero n) hrest

/-! ## Layout -/

/-- Whether JSON passes over a character between values. -/
def isBlank (c : Char) : Bool :=
  c == ' ' || c == '\n' || c == '\t' || c == '\r'

theorem skipBlanks_of_notBlank {c : Char} (h : isBlank c = false) (s : List Char) :
    skipBlanks (c :: s) = c :: s := by
  show (c :: s).dropWhile isBlank = c :: s
  rw [List.dropWhile_cons_of_neg (by simp [h])]

theorem skipBlanks_newLine (depth : Nat) (s : List Char) : skipBlanks (newLine depth ++ s) = skipBlanks s := by
  have hblank : ∀ c ∈ newLine depth, isBlank c = true := by
    intro c hc
    rcases List.mem_cons.mp hc with rfl | hc
    · rfl
    · rw [List.eq_of_mem_replicate hc]
      rfl
  exact List.dropWhile_append_of_pos hblank

/-- The text of a value begins with a character that is no blank and closes no bracket. -/
theorem exists_head_prettyAt (depth : Nat) (j : Json) :
    ∃ c more, prettyAt depth j = c :: more ∧ isBlank c = false ∧ c ≠ ']' := by
  cases j with
  | null => exact ⟨'n', _, by rw [prettyAt], rfl, by decide⟩
  | bool b =>
      cases b with
      | true => exact ⟨'t', _, by rw [prettyAt], rfl, by decide⟩
      | false => exact ⟨'f', _, by rw [prettyAt], rfl, by decide⟩
  | integer n =>
      obtain ⟨c, more, htext, hc⟩ := exists_head_toString n
      refine ⟨c, more, by rw [prettyAt, htext], ?_, ?_⟩
      · rw [Bool.eq_false_iff]
        intro hblank
        simp only [isBlank, Bool.or_eq_true, beq_iff_eq] at hblank
        rcases hblank with ((rfl | rfl) | rfl) | rfl <;> simp at hc
      · rintro rfl
        simp at hc
  | fractional => exact ⟨'-', _, by rw [prettyAt], rfl, by decide⟩
  | string text => exact ⟨'"', _, by rw [prettyAt]; rfl, rfl, by decide⟩
  | array items =>
      cases items with
      | nil => exact ⟨'[', _, by rw [prettyAt], rfl, by decide⟩
      | cons item items => exact ⟨'[', _, by rw [prettyAt]; rfl, rfl, by decide⟩
  | object members =>
      cases members with
      | nil => exact ⟨'\x7b', _, by rw [prettyAt], rfl, by decide⟩
      | cons member members => exact ⟨'\x7b', _, by rw [prettyAt]; rfl, rfl, by decide⟩

theorem skipBlanks_prettyAt (depth : Nat) (j : Json) (rest : List Char) :
    skipBlanks (prettyAt depth j ++ rest) = prettyAt depth j ++ rest := by
  obtain ⟨c, more, hhead, hblank, -⟩ := exists_head_prettyAt depth j
  rw [hhead, List.cons_append, skipBlanks_of_notBlank hblank]

theorem skipBlanks_indented (depth : Nat) (j : Json) (rest : List Char) :
    skipBlanks (newLine depth ++ (prettyAt depth j ++ rest)) = prettyAt depth j ++ rest := by
  rw [skipBlanks_newLine, skipBlanks_prettyAt]

/-- The bracket that closes an array or an object is found on its new line. -/
theorem skipBlanks_closing {c : Char} (h : isBlank c = false) (depth : Nat) (rest : List Char) :
    skipBlanks (newLine depth ++ c :: rest) = c :: rest := by
  rw [skipBlanks_newLine, skipBlanks_of_notBlank h]

theorem length_prettyAt_pos (depth : Nat) (j : Json) : 0 < (prettyAt depth j).length := by
  obtain ⟨c, more, hhead, -⟩ := exists_head_prettyAt depth j
  rw [hhead]
  exact Nat.succ_pos _

/-! ## Values -/

/-- **A value that is written as what it is**: its strings have texts and its numerals are integers. -/
inductive Plain : Json → Prop where
  | null : Plain .null
  | bool (b : Bool) : Plain (.bool b)
  | integer (n : Int) : Plain (.integer n)
  | text (s : String) : Plain (.text s)
  | array {items : List Json} (hitems : ∀ item ∈ items, Plain item) : Plain (.array items)
  | record {members : List (String × Json)} (hmembers : ∀ member ∈ members, Plain member.2) :
      Plain (.record members)

/-- **A value is read back** after blanks, in any indentation, whatever follows that is no part of a numeral.
    There are levels enough if there are twice as many as the text has characters, but for one. -/
def ReadsBack (j : Json) : Prop :=
  ∀ indent levels rest s, EndsNumeral rest → skipBlanks s = prettyAt indent j ++ rest →
    2 * (prettyAt indent j).length ≤ levels + 1 → readValue? levels s = some (j, rest)

theorem readValue?_numeral {levels : Nat} {c : Char} {more : List Char} (hs : skipBlanks s = c :: more)
    (hc : c = '-' ∨ c.isDigit = true) : readValue? (levels + 1) s = numeral? (c :: more) := by
  have hother {d : Char} (hminus : d ≠ '-') (hdigit : d.isDigit = false) : c ≠ d := by
    rintro rfl
    rcases hc with hc | hc
    · exact hminus hc
    · rw [hdigit] at hc
      cases hc
  rw [readValue?, hs]
  split
  · next heq => cases heq
  · next heq => exact absurd (List.cons.inj heq).1 (hother (by decide) (by decide))
  · next heq => exact absurd (List.cons.inj heq).1 (hother (by decide) (by decide))
  · next heq => exact absurd (List.cons.inj heq).1 (hother (by decide) (by decide))
  · next heq => exact absurd (List.cons.inj heq).1 (hother (by decide) (by decide))
  · next heq => exact absurd (List.cons.inj heq).1 (hother (by decide) (by decide))
  · next heq => exact absurd (List.cons.inj heq).1 (hother (by decide) (by decide))
  · next heq =>
    cases heq
    rfl

/-- What comes after an item or a member: further ones, or a new line and the closing bracket. -/
theorem endsNumeral_newLine (indent : Nat) (rest : List Char) : EndsNumeral (newLine indent ++ rest) := by
  intro c hc
  cases hc
  decide

theorem endsNumeral_comma (rest : List Char) : EndsNumeral (',' :: rest) := by
  intro c hc
  cases hc
  decide

/-- An item with a comma behind it is read back, and then the others. -/
theorem readItems?_more {item : Json} (hitem : ReadsBack item) {indent levels : Nat}
    (hs : skipBlanks s = prettyAt indent item ++ ',' :: rest)
    (hlevels : 2 * (prettyAt indent item).length ≤ levels + 1) :
    readItems? (levels + 1) s = (readItems? levels rest).map fun read => (item :: read.1, read.2) := by
  rw [readItems?, hitem indent levels _ s (endsNumeral_comma rest) hs hlevels]
  simp only [Option.bind_eq_bind, Option.bind_some, skipBlanks_of_notBlank (c := ',') rfl]
  cases readItems? levels rest <;> rfl

/-- An item with the closing bracket behind it is read back as the last one. -/
theorem readItems?_last {item : Json} (hitem : ReadsBack item) {indent outer levels : Nat}
    (hs : skipBlanks s = prettyAt indent item ++ (newLine outer ++ ']' :: rest))
    (hlevels : 2 * (prettyAt indent item).length ≤ levels + 1) :
    readItems? (levels + 1) s = some ([item], rest) := by
  rw [readItems?, hitem indent levels _ s (endsNumeral_newLine outer _) hs hlevels]
  simp only [Option.bind_eq_bind, Option.bind_some, skipBlanks_closing (c := ']') rfl]

/-- **Items are read back one after another** up to the closing bracket. By induction on the items. -/
theorem readItems?_prettyItems {item : Json} {items : List Json} (hitem : ReadsBack item)
    (hitems : ∀ item ∈ items, ReadsBack item) {indent outer levels : Nat}
    (hs : skipBlanks s
      = prettyAt indent item ++ (prettyItems indent items ++ (newLine outer ++ ']' :: rest)))
    (hlevels : 2 * ((prettyAt indent item).length + (prettyItems indent items).length) ≤ levels) :
    readItems? levels s = some (item :: items, rest) := by
  have hpos := length_prettyAt_pos indent item
  obtain ⟨levels, rfl⟩ := Nat.exists_eq_add_of_le' (show 1 ≤ levels by omega)
  induction items generalizing item s levels with
  | nil =>
      rw [prettyItems, List.nil_append] at hs
      exact readItems?_last hitem hs (by omega)
  | cons next items ih =>
      obtain ⟨hnext, hmore⟩ := List.forall_mem_cons.mp hitems
      have hpos' := length_prettyAt_pos indent next
      rw [prettyItems] at hs hlevels
      simp only [List.cons_append, List.append_assoc] at hs
      simp only [List.length_append, List.length_cons] at hlevels
      obtain ⟨levels, rfl⟩ := Nat.exists_eq_add_of_le' (show 1 ≤ levels by omega)
      have hread := ih hnext hmore (skipBlanks_indented indent next _) hpos' levels (by omega)
      rw [readItems?_more hitem hs (by omega), hread]
      rfl

/-- The member of an object that has a text for its name. -/
def named (member : String × Json) : Option String × Json :=
  (some member.1, member.2)

theorem quote?_append (name : String) (rest : List Char) :
    quote? (some name) ++ rest = '"' :: (name.toList.flatMap escapeChar ++ '"' :: rest) := by
  show ('"' :: name.toList.flatMap escapeChar ++ ['"']) ++ rest = _
  simp only [List.cons_append, List.append_assoc, List.nil_append]

/-- The text of a member: its name in quotes, a colon and its value. -/
theorem prettyMember_append (indent : Nat) (member : String × Json) (rest : List Char) :
    prettyMember indent (named member) ++ rest = '"' :: (member.1.toList.flatMap escapeChar
      ++ '"' :: ':' :: ' ' :: (prettyAt indent member.2 ++ rest)) := by
  unfold named
  rw [prettyMember, List.append_assoc, List.append_assoc, quote?_append]
  rfl

/-- The text of a member is met at its quote. -/
theorem skipBlanks_prettyMember (indent : Nat) (member : String × Json) (rest : List Char) :
    skipBlanks (prettyMember indent (named member) ++ rest) = prettyMember indent (named member) ++ rest := by
  rw [prettyMember_append, skipBlanks_of_notBlank rfl]

/-- A member takes more than its value does. -/
theorem length_prettyAt_lt (indent : Nat) (member : String × Json) :
    (prettyAt indent member.2).length < (prettyMember indent (named member)).length := by
  unfold named
  rw [prettyMember, List.length_append, List.length_append]
  simp

/-- The name and the value of a member are read back, and what stands behind them is left. -/
theorem readMembers?_eq {member : String × Json} (hmember : ReadsBack member.2) {indent levels : Nat}
    {behind : List Char} (hends : EndsNumeral behind)
    (hs : skipBlanks s = prettyMember indent (named member) ++ behind)
    (hlevels : 2 * (prettyMember indent (named member)).length ≤ levels + 1) :
    readMembers? (levels + 1) s =
      match skipBlanks behind with
      | ',' :: rest => do
        let (members, rest) ← readMembers? levels rest
        some (named member :: members, rest)
      | '\x7d' :: rest => some ([named member], rest)
      | _ => none := by
  have hlength := length_prettyAt_lt indent member
  have hvalue : readValue? levels (' ' :: (prettyAt indent member.2 ++ behind)) = some (member.2, behind) :=
    hmember indent levels behind _ hends (skipBlanks_prettyAt indent member.2 behind) (by omega)
  have hopen : ['"'].isPrefixOf? (skipBlanks s) = some (member.1.toList.flatMap escapeChar
      ++ '"' :: ':' :: ' ' :: (prettyAt indent member.2 ++ behind)) := by
    rw [hs, prettyMember_append]
    rfl
  have hcolon (s : List Char) : [':'].isPrefixOf? (skipBlanks (':' :: s)) = some s := rfl
  rw [readMembers?, hopen]
  simp only [Option.bind_eq_bind, Option.bind_some, string?_escaped, String.ofList_toList, hcolon, hvalue]
  rfl

/-- A member with a comma behind it is read back, and then the others. -/
theorem readMembers?_more {member : String × Json} (hmember : ReadsBack member.2) {indent levels : Nat}
    (hs : skipBlanks s = prettyMember indent (named member) ++ ',' :: rest)
    (hlevels : 2 * (prettyMember indent (named member)).length ≤ levels + 1) :
    readMembers? (levels + 1) s
      = (readMembers? levels rest).map fun read => (named member :: read.1, read.2) := by
  rw [readMembers?_eq hmember (endsNumeral_comma rest) hs hlevels]
  simp only [skipBlanks_of_notBlank (c := ',') rfl]
  cases readMembers? levels rest <;> rfl

/-- A member with the closing brace behind it is read back as the last one. -/
theorem readMembers?_last {member : String × Json} (hmember : ReadsBack member.2) {indent outer levels : Nat}
    (hs : skipBlanks s = prettyMember indent (named member) ++ (newLine outer ++ '\x7d' :: rest))
    (hlevels : 2 * (prettyMember indent (named member)).length ≤ levels + 1) :
    readMembers? (levels + 1) s = some ([named member], rest) := by
  rw [readMembers?_eq hmember (endsNumeral_newLine outer _) hs hlevels]
  simp only [skipBlanks_closing (c := '\x7d') rfl]

/-- **Members are read back one after another** up to the closing brace. By induction on the members. -/
theorem readMembers?_prettyMembers {member : String × Json} {members : List (String × Json)}
    (hmember : ReadsBack member.2) (hmembers : ∀ member ∈ members, ReadsBack member.2)
    {indent outer levels : Nat}
    (hs : skipBlanks s = prettyMember indent (named member)
      ++ (prettyMembers indent (members.map named) ++ (newLine outer ++ '\x7d' :: rest)))
    (hlevels : 2 * ((prettyMember indent (named member)).length
      + (prettyMembers indent (members.map named)).length) ≤ levels) :
    readMembers? levels s = some (named member :: members.map named, rest) := by
  have hpos := length_prettyAt_lt indent member
  obtain ⟨levels, rfl⟩ := Nat.exists_eq_add_of_le' (show 1 ≤ levels by omega)
  induction members generalizing member s levels with
  | nil =>
      rw [List.map_nil, prettyMembers, List.nil_append] at hs
      exact readMembers?_last hmember hs (by omega)
  | cons next members ih =>
      obtain ⟨hnext, hmore⟩ := List.forall_mem_cons.mp hmembers
      have hpos' := length_prettyAt_lt indent next
      rw [List.map_cons, prettyMembers] at hs hlevels
      simp only [List.cons_append, List.append_assoc] at hs
      simp only [List.length_append, List.length_cons] at hlevels
      obtain ⟨levels, rfl⟩ := Nat.exists_eq_add_of_le' (show 1 ≤ levels by omega)
      have hread := ih hnext hmore
        ((skipBlanks_newLine indent _).trans (skipBlanks_prettyMember indent next _)) hpos' levels (by omega)
      rw [readMembers?_more hmember hs (by omega), hread]
      rfl

/-- The text of a value has room for one level at least. -/
theorem readsBack_of_succ {j : Json}
    (h : ∀ indent levels rest s, EndsNumeral rest → skipBlanks s = prettyAt indent j ++ rest →
      2 * (prettyAt indent j).length ≤ levels + 2 → readValue? (levels + 1) s = some (j, rest)) :
    ReadsBack j := by
  intro indent levels rest s hends hs hlevels
  have hpos := length_prettyAt_pos indent j
  obtain ⟨levels, rfl⟩ := Nat.exists_eq_add_of_le' (show 1 ≤ levels by omega)
  exact h indent levels rest s hends hs hlevels

theorem readsBack_integer (n : Int) : ReadsBack (.integer n) := by
  apply readsBack_of_succ
  intro indent levels rest s hends hs hlevels
  rw [prettyAt] at hs
  obtain ⟨c, more, htext, hc⟩ := exists_head_toString n
  have hhead : skipBlanks s = c :: (more ++ rest) := by
    rw [hs, htext, List.cons_append]
  rw [readValue?_numeral hhead hc, ← hhead, hs]
  exact numeral?_toString n hends

theorem readsBack_text (text : String) : ReadsBack (.text text) := by
  apply readsBack_of_succ
  intro indent levels rest s hends hs hlevels
  unfold Json.text at hs ⊢
  rw [prettyAt, quote?_append] at hs
  rw [readValue?, hs]
  show (string? _).map _ = _
  rw [string?_escaped, String.ofList_toList]
  rfl

/-- Behind the bracket of an array that is not empty stand its items. -/
theorem readValue?_bracket {levels : Nat} {c : Char} {inside more : List Char}
    (hs : skipBlanks s = '[' :: inside) (hinside : skipBlanks inside = c :: more) (hc : c ≠ ']') :
    readValue? (levels + 1) s = (readItems? levels inside).map fun read => (.array read.1, read.2) := by
  rw [readValue?, hs]
  simp only [hinside]
  split
  · next heq => exact absurd (List.cons.inj heq).1 hc
  · rfl

/-- Behind the brace of an object that is not empty stand its members. -/
theorem readValue?_brace {levels : Nat} {c : Char} {inside more : List Char}
    (hs : skipBlanks s = '\x7b' :: inside) (hinside : skipBlanks inside = c :: more) (hc : c ≠ '\x7d') :
    readValue? (levels + 1) s = (readMembers? levels inside).map fun read => (.object read.1, read.2) := by
  rw [readValue?, hs]
  simp only [hinside]
  split
  · next heq => exact absurd (List.cons.inj heq).1 hc
  · rfl

/-- An array is read back if its items are. -/
theorem readsBack_array {items : List Json} (h : ∀ item ∈ items, ReadsBack item) :
    ReadsBack (.array items) := by
  apply readsBack_of_succ
  intro indent levels rest s hends hs hlevels
  cases items with
  | nil =>
      rw [prettyAt] at hs
      rw [readValue?, hs]
      rfl
  | cons item items =>
      obtain ⟨hitem, hitems⟩ := List.forall_mem_cons.mp h
      rw [prettyAt] at hs hlevels
      simp only [List.cons_append, List.append_assoc, List.nil_append] at hs
      simp only [List.length_append, List.length_cons, List.length_nil] at hlevels
      have hinside := skipBlanks_indented (indent + 1) item
        (prettyItems (indent + 1) items ++ (newLine indent ++ ']' :: rest))
      have hroom : 2 * ((prettyAt (indent + 1) item).length + (prettyItems (indent + 1) items).length)
          ≤ levels := by omega
      have hread := readItems?_prettyItems hitem hitems hinside hroom
      obtain ⟨c, more, hhead, -, hc⟩ := exists_head_prettyAt (indent + 1) item
      rw [readValue?_bracket hs (hinside.trans (congrArg (· ++ _) hhead)) hc, hread]
      rfl

/-- An object is read back if the values of its members are. -/
theorem readsBack_record {members : List (String × Json)} (h : ∀ member ∈ members, ReadsBack member.2) :
    ReadsBack (.record members) := by
  apply readsBack_of_succ
  intro indent levels rest s hends hs hlevels
  show _ = some (Json.object (members.map named), rest)
  replace hs : skipBlanks s = prettyAt indent (.object (members.map named)) ++ rest := hs
  replace hlevels : 2 * (prettyAt indent (.object (members.map named))).length ≤ levels + 2 := hlevels
  cases members with
  | nil =>
      rw [List.map_nil, prettyAt] at hs
      rw [readValue?, hs]
      rfl
  | cons member members =>
      obtain ⟨hmember, hmembers⟩ := List.forall_mem_cons.mp h
      rw [List.map_cons, prettyAt] at hs hlevels
      simp only [List.cons_append, List.append_assoc, List.nil_append] at hs
      simp only [List.length_append, List.length_cons, List.length_nil] at hlevels
      have hinside := (skipBlanks_newLine (indent + 1) _).trans
        (skipBlanks_prettyMember (indent + 1) member
          (prettyMembers (indent + 1) (members.map named) ++ (newLine indent ++ '\x7d' :: rest)))
      have hroom : 2 * ((prettyMember (indent + 1) (named member)).length
          + (prettyMembers (indent + 1) (members.map named)).length) ≤ levels := by omega
      have hread := readMembers?_prettyMembers hmember hmembers hinside hroom
      rw [readValue?_brace hs (hinside.trans (prettyMember_append ..)) (by decide), hread]
      rfl

/-- **A plain value is read back.** By induction on the value. -/
theorem readsBack {j : Json} (h : Plain j) : ReadsBack j := by
  induction h with
  | null =>
      apply readsBack_of_succ
      intro indent levels rest s hends hs hlevels
      rw [prettyAt] at hs
      rw [readValue?, hs]
      rfl
  | bool b =>
      apply readsBack_of_succ
      intro indent levels rest s hends hs hlevels
      cases b with
      | true =>
          rw [prettyAt] at hs
          rw [readValue?, hs]
          rfl
      | false =>
          rw [prettyAt] at hs
          rw [readValue?, hs]
          rfl
  | integer n => exact readsBack_integer n
  | text s => exact readsBack_text s
  | array _ ih => exact readsBack_array ih
  | record _ ih => exact readsBack_record ih

/-! ## Texts -/

/-- **A plain value is read back from its text.** -/
theorem ofText?_pretty {j : Json} (h : Plain j) : ofText? j.pretty = some j := by
  have hread : readValue? (2 * j.pretty.length + 1) j.pretty.toList = some (j, []) := by
    refine readsBack h 0 _ [] _ ?_ ?_ ?_
    · intro c hc
      cases hc
    · unfold pretty
      rw [String.toList_ofList, List.append_nil]
      simpa using skipBlanks_prettyAt 0 j []
    · unfold pretty
      rw [String.length_ofList]
      omega
  unfold ofText?
  rw [hread]
  rfl

end ShaderCombos.Json
