import Mathlib
import ShaderCombos.Proofs.Directive.Bounds
import ShaderCombos.Proofs.Directive.Desktop

/-!
# `Proofs.Directive.Reading` — reading recovers what was written

The reader scans a directive from the left: blanks, slashes, keyword, colon, and then what belongs to the
keyword. This module follows the scan over a line in its documented form, part by part, and ends with the
law that the reader is there for: a source that is written for some directives is read as these
directives, in order, whatever the layout of its lines and whatever stands between them
(`gathers_of_transcribes`).

## Contents
- **Characters.** What the parts of a line do not hold.
- **The head.** `afterColon?_opening`, `head?_opening`.
- **Parts.** `quotedName?_name`, `numeral?_numeral`, `quotedRange?_range`.
- **Lines.** `combo?_line`, `centroidSlot?_line`, `skipRule_body`.
- **Directives.** `ofLine?_opening`, `ofLine?_of_writes`.
- **Sources.** `exists_outcomes_of_transcribes`, `gathers_of_transcribes`.
-/

namespace ShaderCombos.Directive

open Text

variable {stage : Stage} {rest : List Char}

/-! ## Characters -/

/-- A digit is not blank, and it is no sign of the grammar. -/
theorem isBlank_of_isDigit {c : Char} (h : c.isDigit = true) : isBlank c = false := by
  simp only [Char.isDigit, Bool.and_eq_true, decide_eq_true_eq] at h
  have hlow : 48 ≤ c.toNat := h.1
  have hhigh : c.toNat ≤ 57 := h.2
  unfold isBlank
  simp only [Bool.or_eq_false_iff, Bool.and_eq_false_iff, decide_eq_false_iff_not, beq_eq_false_iff_ne]
  omega

theorem ne_of_isDigit {c d : Char} (hc : c.isDigit = true) (hd : d.isDigit = false) : c ≠ d := by
  rintro rfl
  rw [hc] at hd
  cases hd

theorem Numeral.digits_ne_nil {n : Nat} (numeral : Numeral n) : numeral.digits ≠ [] := by
  intro h
  have hvalue := numeral.value
  rw [h] at hvalue
  cases hvalue

theorem Name.ne_of_mem (name : Name) {c d : Char} (hc : c ∈ name.chars) (hd : d.isAlphanum = false)
    (hunderscore : d ≠ '_') : c ≠ d := by
  rintro rfl
  rcases name.word c hc with hword | hword
  · rw [hword] at hd
    cases hd
  · exact hunderscore hword

/-! ## The head -/

theorem bracket_notMem_keyword (kind : Kind) : '[' ∉ kind.keyword.toList := by
  rcases kind with (_ | _) | _ | _ <;> decide

/-- No keyword begins with a blank. -/
theorem dropBlanks_keyword (kind : Kind) (s : List Char) :
    dropBlanks (kind.keyword.toList ++ s) = kind.keyword.toList ++ s := by
  rcases kind with (_ | _) | _ | _ <;> rfl

/-- No keyword begins with another. -/
theorem dropLiteral?_keyword_of_ne {kind other : Kind} (h : other ≠ kind) (s : List Char) :
    dropLiteral? other.keyword (kind.keyword.toList ++ s) = none := by
  rcases kind with (_ | _) | _ | _ <;> rcases other with (_ | _) | _ | _ <;>
    first
    | rfl
    | exact absurd rfl h

theorem Gap.dropBlanks_append (g : Gap) (s : List Char) : dropBlanks (g.chars ++ s) = dropBlanks s :=
  dropBlanks_append_of_blank g.isBlank_of_mem s

theorem Opening.text_append (o : Opening) (kind : Kind) (s : List Char) :
    o.text kind ++ s = o.lead.chars ++ ("//".toList ++ (o.afterSlashes.chars ++ (kind.keyword.toList
      ++ (o.afterKeyword.chars ++ (":".toList ++ (o.afterColon.chars ++ s)))))) := by
  simp [Opening.text]

/-- No opening holds a bracket. -/
theorem Opening.bracket_notMem (o : Opening) (kind : Kind) : '[' ∉ o.text kind := by
  have hgap : ∀ g : Gap, '[' ∉ g.chars := fun g h => g.ne_of_mem h (by decide) rfl
  have hslash : '[' ∉ "//".toList := by decide
  have hcolon : '[' ∉ ":".toList := by decide
  have htext := o.text_append kind []
  rw [List.append_nil, List.append_nil] at htext
  rw [htext]
  simp only [List.mem_append, not_or]
  exact ⟨hgap _, hslash, hgap _, bracket_notMem_keyword kind, hgap _, hcolon, hgap _⟩

/-- **Behind the colon.** A line is taken apart up to its colon by the kind whose keyword it has, and by
    no other. -/
theorem afterColon?_opening (o : Opening) (kind other : Kind) (s : List Char) :
    afterColon? other (o.text kind ++ s) = if other = kind then some (dropBlanks s) else none := by
  have hslashes : ∀ t, dropBlanks ("//".toList ++ t) = "//".toList ++ t := fun t => rfl
  have hcolon : ∀ t, dropBlanks (":".toList ++ t) = ":".toList ++ t := fun t => rfl
  rw [o.text_append kind s]
  unfold afterColon?
  rw [o.lead.dropBlanks_append, hslashes, dropLiteral?_append]
  show (dropLiteral? other.keyword (dropBlanks (o.afterSlashes.chars ++ _)) >>= _) = _
  rw [o.afterSlashes.dropBlanks_append, dropBlanks_keyword]
  by_cases h : other = kind
  · subst h
    rw [if_pos rfl, dropLiteral?_append]
    show (dropLiteral? ":" (dropBlanks (o.afterKeyword.chars ++ _)) >>= _) = _
    rw [o.afterKeyword.dropBlanks_append, hcolon, dropLiteral?_append]
    show some (dropBlanks (o.afterColon.chars ++ s)) = _
    rw [o.afterColon.dropBlanks_append]
  · rw [if_neg h, dropLiteral?_keyword_of_ne h]
    rfl

/-- **The head of a directive.** -/
theorem head?_opening (o : Opening) (kind : Kind) {s : List Char} (hs : '\n' ∉ s) :
    head? (o.text kind ++ s) = some (kind, dropBlanks s) := by
  have hbody : (dropBlanks s).contains '\n' = false := by
    rw [List.contains_eq_mem, decide_eq_false_iff_not]
    intro h
    exact hs ((List.dropWhile_suffix _).mem h)
  have hfirst : (Kind.all.findSome? fun other =>
      (afterColon? other (o.text kind ++ s)).map (other, ·)) = some (kind, dropBlanks s) := by
    simp only [afterColon?_opening]
    rcases kind with (_ | _) | _ | _ <;> rfl
  unfold head?
  rw [hfirst]
  show (if (dropBlanks s).contains '\n' then none else some (kind, dropBlanks s)) = _
  rw [hbody]
  rfl

/-! ## Parts -/

/-- A quoted name is read as it is spelled. -/
theorem quotedName?_name (name : Name) (rest : List Char) :
    quotedName? (name.quoted ++ rest) = some (name.chars, rest) := by
  have hquote : '"' ∉ name.chars := fun h => name.ne_of_mem h (by decide) (by decide) rfl
  have htext : name.quoted ++ rest = '"' :: (name.chars ++ '"' :: rest) := by
    simp [Name.quoted]
  have htake := takeWhile_ne hquote rest
  have hdrop := dropWhile_ne hquote rest
  have hempty : name.chars.isEmpty = false := List.isEmpty_eq_false_iff.mpr name.nonempty
  rw [htext]
  unfold quotedName?
  simp only [htake, hdrop, hempty]
  rfl

/-- A numeral is read up to what is no digit. -/
theorem numeral?_numeral {n : Nat} (numeral : Numeral n) (hrest : rest.takeWhile Char.isDigit = []) :
    numeral? (numeral.digits ++ rest) = some (n, rest) := by
  have htake : (numeral.digits ++ rest).takeWhile Char.isDigit = numeral.digits := by
    rw [List.takeWhile_append_of_pos numeral.ascii, hrest, List.append_nil]
  have hrest' : rest.dropWhile Char.isDigit = rest := by
    have hparts := List.takeWhile_append_dropWhile (p := Char.isDigit) (l := rest)
    rw [hrest] at hparts
    exact hparts
  have hdrop : (numeral.digits ++ rest).dropWhile Char.isDigit = rest := by
    rw [List.dropWhile_append_of_pos numeral.ascii, hrest']
  unfold numeral?
  rw [htake, hdrop, numeral.value]
  rfl

/-- A quoted range is read as its two bounds, whatever follows. -/
theorem quotedRange?_range {low high : Nat} (lower : Numeral low) (upper : Numeral high)
    (rest : List Char) : quotedRange? (rangeText lower upper ++ rest) = some (low, high) := by
  have htext : rangeText lower upper ++ rest = "\"".toList ++ (lower.digits
      ++ ("..".toList ++ (upper.digits ++ ("\"".toList ++ rest)))) := by
    simp [rangeText]
  have hlower : numeral? (lower.digits ++ ("..".toList ++ (upper.digits ++ ("\"".toList ++ rest))))
      = some (low, "..".toList ++ (upper.digits ++ ("\"".toList ++ rest))) :=
    numeral?_numeral lower rfl
  have hupper : numeral? (upper.digits ++ ("\"".toList ++ rest)) = some (high, "\"".toList ++ rest) :=
    numeral?_numeral upper rfl
  rw [htext]
  unfold quotedRange?
  simp only [dropLiteral?_append, hlower, hupper, Option.bind_eq_bind, Option.bind_some]

/-! ## Lines -/

/-- No trail holds a line feed. -/
theorem Trail.lineFeed_notMem (t : Trail stage) : '\n' ∉ t.text := by
  unfold Trail.text
  intro h
  rcases List.mem_append.mp h with h | h
  · exact (t.lead.blank _ h).2 rfl
  · obtain ⟨m, -, hm⟩ := List.mem_flatMap.mp h
    rcases List.mem_append.mp hm with hm | hm
    · obtain ⟨inner, htext, hinner⟩ := m.1.text_eq
      rw [htext] at hm
      rcases List.mem_cons.mp hm with hopen | hm
      · exact absurd hopen (by decide)
      · rcases List.mem_append.mp hm with hm | hclose
        · exact (hinner _ hm).2 rfl
        · exact absurd (List.mem_singleton.mp hclose) (by decide)
    · exact (m.2.blank _ hm).2 rfl

/-- A text that ends in a sign of the grammar does not end in a blank. -/
theorem notBlank_getLast_append {p q : List Char} (hq : q ≠ [])
    (hlast : isBlank (q.getLast hq) = false) (h : p ++ q ≠ []) :
    isBlank ((p ++ q).getLast h) = false := by
  rw [List.getLast_append_of_ne_nil h hq]
  exact hlast

/-- What is plain behind an opening leaves the front of a line without brackets. -/
theorem Opening.bracket_notMem_append (o : Opening) (kind : Kind) {body : List Char}
    (hbody : ∀ c ∈ body, c ≠ '[' ∧ c ≠ '\n') : '[' ∉ o.text kind ++ body := by
  intro h
  rcases List.mem_append.mp h with h | h
  · exact o.bracket_notMem kind h
  · exact (hbody _ h).1 rfl

section Combo

variable {low high : Nat} (name : Name) (gap : Gap) (lower : Numeral low) (upper : Numeral high)

/-- What declares a combo, between the opening and the trail. -/
def comboText : List Char :=
  name.quoted ++ (gap.chars ++ rangeText lower upper)

theorem mem_rangeText {c : Char} (hc : c ∈ rangeText lower upper) : c = '"' ∨ c = '.' ∨ c.isDigit := by
  unfold rangeText at hc
  simp only [List.mem_cons, List.mem_append, List.not_mem_nil, or_false] at hc
  rcases hc with rfl | hc | rfl | rfl | hc | rfl
  · exact Or.inl rfl
  · exact Or.inr (Or.inr (lower.ascii c hc))
  · exact Or.inr (Or.inl rfl)
  · exact Or.inr (Or.inl rfl)
  · exact Or.inr (Or.inr (upper.ascii c hc))
  · exact Or.inl rfl

theorem mem_quoted {c : Char} (hc : c ∈ name.quoted) : c = '"' ∨ c ∈ name.chars := by
  unfold Name.quoted at hc
  simp only [List.mem_cons, List.mem_append, List.not_mem_nil, or_false] at hc
  rcases hc with rfl | hc | rfl
  · exact Or.inl rfl
  · exact Or.inr hc
  · exact Or.inl rfl

/-- What declares a combo holds neither a bracket nor a line feed. -/
theorem plain_of_mem_comboText {c : Char} (hc : c ∈ comboText name gap lower upper) :
    c ≠ '[' ∧ c ≠ '\n' := by
  unfold comboText at hc
  rcases List.mem_append.mp hc with hc | hc
  · rcases mem_quoted name hc with rfl | hc
    · exact ⟨by decide, by decide⟩
    · exact ⟨name.ne_of_mem hc (by decide) (by decide), name.ne_of_mem hc (by decide) (by decide)⟩
  · rcases List.mem_append.mp hc with hc | hc
    · exact ⟨gap.ne_of_mem hc (by decide), (gap.blank c hc).2⟩
    · rcases mem_rangeText lower upper hc with rfl | rfl | hc
      · exact ⟨by decide, by decide⟩
      · exact ⟨by decide, by decide⟩
      · exact ⟨ne_of_isDigit hc (by decide), ne_of_isDigit hc (by decide)⟩

/-- **The line of a combo** is read as the combo. The desktop marks of the trail count as blanks and
    stand behind the range, where nothing is looked at but the initial expression. -/
theorem combo?_line {list : ComboKind} (o : Opening) (apart : gap.chars ≠ []) (hlow : low < 2 ^ 31)
    (hhigh : high < 2 ^ 31) {expression : Option Expression} {t : Trail stage}
    (hinit : t.expressions = expression.toList) :
    combo? list (o.text (.combo list) ++ comboText name gap lower upper ++ t.text) =
      some ⟨String.ofList name.chars, Int32.ofNat low, Int32.ofNat high, initOf expression⟩ := by
  have hfront := o.bracket_notMem_append (.combo list)
    fun c hc => plain_of_mem_comboText name gap lower upper hc
  have hend : comboText name gap lower upper
      = (name.quoted ++ (gap.chars ++ '"' :: (lower.digits ++ ('.' :: '.' :: upper.digits)))) ++ ['"'] := by
    simp [comboText, rangeText]
  have hlast : ∀ h : o.text (.combo list) ++ comboText name gap lower upper ≠ [],
      isBlank ((o.text (.combo list) ++ comboText name gap lower upper).getLast h) = false := by
    rw [hend, ← List.append_assoc]
    intro h
    rw [List.getLast_concat]
    decide
  have hpasses : Passes desktopMark (o.text (.combo list) ++ comboText name gap lower upper) t.text :=
    passes_desktop_of_getLast hfront hlast
  -- What becomes of the trail does not matter, since nothing is read behind the range.
  have hplain := hpasses.replaceMarks [' ']
  generalize replaceMarks desktopMark [' '] t.text = behind at hplain
  have hbody : afterColon? (.combo list)
      (o.text (.combo list) ++ comboText name gap lower upper ++ behind)
        = some (name.quoted ++ (gap.chars ++ (rangeText lower upper ++ behind))) := by
    rw [List.append_assoc, afterColon?_opening, if_pos rfl]
    simp only [comboText, List.append_assoc]
    rfl
  have hspaced : dropBlanks (gap.chars ++ (rangeText lower upper ++ behind))
      = rangeText lower upper ++ behind := by
    rw [gap.dropBlanks_append]
    rfl
  have hapart : ¬ (rangeText lower upper ++ behind).length
      = (gap.chars ++ (rangeText lower upper ++ behind)).length := by
    have hpos := List.length_pos_of_ne_nil apart
    rw [@List.length_append _ gap.chars]
    omega
  have hmin : bound? low = some (Int32.ofNat low) := bound?_eq_some_iff.mpr ⟨hlow, rfl⟩
  have hmax : bound? high = some (Int32.ofNat high) := bound?_eq_some_iff.mpr ⟨hhigh, rfl⟩
  have hvalue := init_line hfront hinit
  unfold combo?
  rw [hplain]
  refine Option.bind_eq_some_iff.mpr ⟨_, hbody, ?_⟩
  refine Option.bind_eq_some_iff.mpr ⟨_, quotedName?_name name _, ?_⟩
  show (if (dropBlanks _).length = _ then none else _) = _
  rw [hspaced]
  refine (if_neg hapart).trans ?_
  refine Option.bind_eq_some_iff.mpr ⟨_, quotedRange?_range lower upper _, ?_⟩
  refine Option.bind_eq_some_iff.mpr ⟨_, hmin, ?_⟩
  refine Option.bind_eq_some_iff.mpr ⟨_, hmax, ?_⟩
  rw [hvalue]

end Combo

/-- What declares a texture coordinate holds neither a bracket nor a line feed. -/
theorem plain_of_mem_centroid {n : Nat} (numeral : Numeral n) {c : Char}
    (hc : c ∈ "TEXCOORD".toList ++ numeral.digits) : c ≠ '[' ∧ c ≠ '\n' := by
  rcases List.mem_append.mp hc with hc | hc
  · constructor
    · rintro rfl
      exact absurd hc (by decide)
    · rintro rfl
      exact absurd hc (by decide)
  · have hdigit := numeral.ascii c hc
    exact ⟨ne_of_isDigit hdigit (by decide), ne_of_isDigit hdigit (by decide)⟩

/-- **The line of a texture coordinate** is read as its number. -/
theorem centroidSlot?_line (o : Opening) {slot : Nat} (hslot : slot < 32) (numeral : Numeral slot)
    {t : Trail stage} (hinit : t.expressions = []) :
    centroidSlot? stage (o.text .centroid ++ ("TEXCOORD".toList ++ numeral.digits) ++ t.text)
      = some slot := by
  have hfront := o.bracket_notMem_append .centroid fun c hc => plain_of_mem_centroid numeral hc
  have hlast : ∀ h : o.text .centroid ++ ("TEXCOORD".toList ++ numeral.digits) ≠ [],
      isBlank ((o.text .centroid ++ ("TEXCOORD".toList ++ numeral.digits)).getLast h) = false := by
    rw [← List.append_assoc]
    apply notBlank_getLast_append numeral.digits_ne_nil
    exact isBlank_of_isDigit (numeral.ascii _ (List.getLast_mem numeral.digits_ne_nil))
  obtain ⟨blanks, hblanks, hplain⟩ := exists_blank_plain hfront hlast t hinit
  have hbody : afterColon? .centroid (o.text .centroid ++ ("TEXCOORD".toList ++ numeral.digits) ++ blanks)
      = some ("TEXCOORD".toList ++ (numeral.digits ++ blanks)) := by
    rw [List.append_assoc, afterColon?_opening, if_pos rfl, List.append_assoc]
    rfl
  -- No blank is a digit, so the number ends where the trail begins.
  have hdigits : blanks.takeWhile Char.isDigit = [] := by
    cases blanks with
    | nil => rfl
    | cons c blanks =>
        apply List.takeWhile_cons_of_neg
        intro hdigit
        have hblank := hblanks c List.mem_cons_self
        rw [isBlank_of_isDigit hdigit] at hblank
        cases hblank
  have hend : (dropBlanks blanks).isEmpty = true := by
    rw [dropBlanks_eq_nil_of_blank hblanks]
    rfl
  have hfits : fits32 slot = true := by
    unfold fits32
    exact decide_eq_true (by omega)
  unfold centroidSlot?
  rw [hplain]
  refine Option.bind_eq_some_iff.mpr ⟨_, hbody, ?_⟩
  refine Option.bind_eq_some_iff.mpr ⟨_, dropLiteral?_append "TEXCOORD" _, ?_⟩
  refine Option.bind_eq_some_iff.mpr ⟨_, numeral?_numeral numeral hdigits, ?_⟩
  show (if ((dropBlanks blanks).isEmpty && fits32 slot) = true then some slot else none) = some slot
  rw [hend, hfits]
  rfl

/-- A predicate and its trail, without blanks in front. -/
theorem exists_trail_of_dropBlanks (predicate : Predicate) (t : Trail stage) :
    ∃ t' : Trail stage, dropBlanks (predicate.chars ++ t.text) = predicate.chars ++ t'.text ∧
      t'.expressions = t.expressions := by
  -- Without a predicate, the blanks at the head of the trail go as well.
  by_cases hempty : predicate.chars = []
  · refine ⟨⟨Gap.none, t.markers⟩, ?_, rfl⟩
    have hrest := List.takeWhile_append_dropWhile (p := isBlank)
      (l := t.markers.flatMap fun m => m.1.text ++ m.2.chars)
    rw [takeWhile_markers] at hrest
    rw [hempty]
    show dropBlanks (t.lead.chars ++ _) = _
    rw [t.lead.dropBlanks_append]
    exact hrest
  · refine ⟨t, ?_, rfl⟩
    have hsome : ∃ c ∈ predicate.chars, isBlank c = false :=
      ⟨_, List.getLast_mem hempty, notBlank_getLast_of_trim_eq predicate.trimmed hempty⟩
    rw [dropBlanks_append_of_exists hsome, dropBlanks_eq_of_trim_eq predicate.trimmed]

/-- **The body of a skip directive** is read as its predicate. -/
theorem skipRule_body (predicate : Predicate) {t : Trail stage} (hinit : t.expressions = []) :
    skipRule stage (dropBlanks (predicate.chars ++ t.text)) = predicate.chars := by
  have hbracket : '[' ∉ predicate.chars := fun h => (predicate.plain _ h).1 rfl
  have hlast : ∀ h : predicate.chars ≠ [], isBlank (predicate.chars.getLast h) = false :=
    fun h => notBlank_getLast_of_trim_eq predicate.trimmed h
  obtain ⟨t', hbody, hsame⟩ := exists_trail_of_dropBlanks predicate t
  obtain ⟨blanks, hblanks, hplain⟩ := exists_blank_body hbracket hlast t' (hsame.trans hinit)
  unfold skipRule
  rw [hbody, hplain, trim_append_of_blank hblanks, predicate.trimmed]

/-! ## Directives -/

variable {f : Filter} {line : String}

/-- A line in its documented form is a directive, and it applies. -/
theorem ofLine?_opening {o : Opening} {kind : Kind} {body : List Char} {t : Trail f.stage}
    (hline : line.toList = o.text kind ++ body ++ t.text) (hbody : ∀ c ∈ body, c ≠ '[' ∧ c ≠ '\n')
    (hallows : f.Allows t) :
    ofLine? f line = (read f kind (dropBlanks (body ++ t.text)) line).map some := by
  have hfeed : '\n' ∉ body ++ t.text := by
    intro h
    rcases List.mem_append.mp h with h | h
    · exact (hbody _ h).2 rfl
    · exact t.lineFeed_notMem h
  have hhead : head? line.toList = some (kind, dropBlanks (body ++ t.text)) := by
    rw [hline, List.append_assoc]
    exact head?_opening o kind hfeed
  have haccepts : f.accepts line.toList = true := by
    rw [hline]
    exact accepts_line (o.bracket_notMem_append kind hbody) hallows
  unfold ofLine?
  rw [hhead]
  exact if_pos haccepts

theorem read_combo {list : ComboKind} {body : List Char} {c : Combo}
    (h : combo? list line.toList = some c) :
    read f (.combo list) body line = .ok (.combo list c) := by
  unfold read
  simp only [h]

theorem read_centroid {body : List Char} {slot : Fin 32}
    (h : centroidSlot? f.stage line.toList = some slot.val) :
    read f .centroid body line = .ok (.centroid slot) := by
  unfold read
  simp only [h]
  exact dif_pos slot.isLt

/-- **A line that declares a directive is read as the directive.** -/
theorem ofLine?_of_writes {directive : Directive} (h : Writes f directive line.toList) :
    ofLine? f line = .ok (some directive) := by
  generalize hchars : line.toList = chars at h
  cases h with
  | combo list o name gap apart lower upper hlow hhigh expression t hallows hinit =>
      have hline : line.toList
          = o.text (.combo list) ++ comboText name gap lower upper ++ t.text := by
        rw [hchars]
        simp [comboText]
      have hcombo : combo? list (o.text (.combo list) ++ comboText name gap lower upper ++ t.text)
          = some _ :=
        combo?_line name gap lower upper o apart hlow hhigh hinit
      rw [← hline] at hcombo
      rw [ofLine?_opening hline (fun c hc => plain_of_mem_comboText name gap lower upper hc) hallows,
        read_combo hcombo]
      rfl
  | centroid o slot numeral t hallows hinit =>
      have hline : line.toList
          = o.text .centroid ++ ("TEXCOORD".toList ++ numeral.digits) ++ t.text := by
        rw [hchars, List.append_assoc, List.append_assoc]
      have hslot := centroidSlot?_line o slot.isLt numeral hinit
      rw [← hline] at hslot
      rw [ofLine?_opening hline (fun c hc => plain_of_mem_centroid numeral hc) hallows,
        read_centroid hslot]
      rfl
  | skip o predicate t hallows hinit =>
      have hline : line.toList = o.text .skip ++ predicate.chars ++ t.text := by
        rw [hchars, List.append_assoc]
      rw [ofLine?_opening hline predicate.plain hallows]
      show Except.ok (some (Directive.skip (String.ofList (skipRule f.stage _)))) = _
      rw [skipRule_body predicate hinit]

/-! ## Sources -/

/-- The lines of a transcript, read one by one, give its directives. Induction on the transcript. -/
theorem exists_outcomes_of_transcribes {directives : List Directive} {lines : List String}
    (h : Transcribes f directives lines) :
    ∃ outcomes, List.Forall₂ (fun line outcome => ofLine? f line = .ok outcome) lines outcomes ∧
      outcomes.flatMap Option.toList = directives := by
  induction h with
  | done => exact ⟨[], .nil, rfl⟩
  | other hother _ ih =>
      obtain ⟨outcomes, hread, rfl⟩ := ih
      refine ⟨none :: outcomes, .cons ?_ hread, rfl⟩
      unfold ofLine?
      rw [hother]
  | declared hline _ ih =>
      obtain ⟨outcomes, hread, rfl⟩ := ih
      exact ⟨some _ :: outcomes, .cons (ofLine?_of_writes hline) hread, rfl⟩

/-- **Parsing recovers what was declared.** Lines that are written for some directives, in any layout and
    with any other lines between them, are read without fault, and what is found are these directives:
    the combos of either kind and the skip rules in the order in which they were declared, and in the
    centroid mask the bits of the texture coordinates that were declared. -/
theorem gathers_of_transcribes {directives : List Directive} {lines : List String}
    (h : Transcribes f directives lines) :
    ∃ found, Declarations.ofLines f lines = .ok found ∧ Declarations.Gathers directives found := by
  obtain ⟨outcomes, hread, rfl⟩ := exists_outcomes_of_transcribes h
  exact ⟨_, Declarations.ofLines_eq_ok.mpr ⟨outcomes, hread, rfl⟩,
    Declarations.gathers_foldl_add _⟩

/-! ### A source with a directive of each kind -/

namespace EachKind

def filter : Filter :=
  .forModel .pixel .three

def opening : Opening :=
  ⟨Gap.none, Gap.space, Gap.none, Gap.space⟩

def name : Name where
  chars := ['F', 'O', 'G']
  nonempty := List.cons_ne_nil _ _
  word := fun c hc => by
    simp only [List.mem_cons, List.not_mem_nil, or_false] at hc
    rcases hc with rfl | rfl | rfl <;> decide

def zero : Expression where
  chars := ['0']
  nonempty := List.cons_ne_nil _ _
  trimmed := by decide
  plain := fun c hc => by
    rw [List.mem_singleton.mp hc]
    decide

def predicate : Predicate where
  chars := ['$', 'F', 'O', 'G']
  trimmed := by decide
  plain := fun c hc => by
    simp only [List.mem_cons, List.not_mem_nil, or_false] at hc
    rcases hc with rfl | rfl | rfl | rfl <;> decide

def thirty : Version where
  chars := ['3', '0']
  spelled := ⟨['3', '0'], [], rfl, List.cons_ne_nil _ _, fun c hc => by
    rcases List.mem_pair.mp hc with rfl | rfl <;> decide, Or.inl rfl⟩

/-- The version of the filter, in capital letters. -/
def version : Marker filter.stage :=
  .version 'P' 'S' (by decide) thirty

def directives : List Directive :=
  [.combo .static ⟨"FOG", 0, 1, .expression "0"⟩, .centroid 2, .skip "$FOG"]

def lines : List String :=
  ["float4 main() : COLOR", "// STATIC: \"FOG\" \"0..1\" [PC] [=0;]", "// CENTROID: TEXCOORD2[PC]",
    "// SKIP: $FOG [PS30]"]

theorem writes_combo :
    Writes filter (.combo .static ⟨"FOG", 0, 1, .expression "0"⟩)
      "// STATIC: \"FOG\" \"0..1\" [PC] [=0;]".toList :=
  .combo .static opening name Gap.space (List.cons_ne_nil _ _) (Numeral.ofNat 0) (Numeral.ofNat 1)
    (by decide) (by decide) (some zero)
    ⟨Gap.space, [(.desktop, Gap.space), (.init Gap.none Gap.none zero Gap.none (some Gap.none), Gap.none)]⟩
    (Or.inl rfl) rfl

theorem writes_centroid : Writes filter (.centroid 2) "// CENTROID: TEXCOORD2[PC]".toList :=
  .centroid opening 2 (Numeral.ofNat 2) ⟨Gap.none, [(.desktop, Gap.none)]⟩ (Or.inl rfl) rfl

theorem writes_skip : Writes filter (.skip "$FOG") "// SKIP: $FOG [PS30]".toList :=
  .skip opening predicate ⟨Gap.space, [(version, Gap.none)]⟩
    (Or.inr ⟨['3', '0'], List.mem_cons_self, by decide⟩) rfl

theorem transcribes : Transcribes filter directives lines :=
  .other (by decide) (.declared writes_combo (.declared writes_centroid (.declared writes_skip .done)))

end EachKind

theorem gathers_of_transcribes_each_kind :
    Transcribes EachKind.filter EachKind.directives EachKind.lines ∧
      ∃ found, Declarations.ofLines EachKind.filter EachKind.lines = .ok found ∧
        Declarations.Gathers EachKind.directives found :=
  ⟨EachKind.transcribes, gathers_of_transcribes EachKind.transcribes⟩

end ShaderCombos.Directive
