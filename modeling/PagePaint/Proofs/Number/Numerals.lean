import PagePaint.Proofs.Number.Decimals

set_option autoImplicit false

/-!
# The grammar of numerals

Which texts are numerals, and for which numbers they stand. A natural number is a row of digits,
behind a plus sign if there is one. A single-precision number is a word for infinity or for no
number, or else digits with a point and an exponent, of which both may be missing, rounded to the
nearest number there is; and it has either sign. The readers accept the words of this grammar and
no others.
-/

namespace PagePaint.Numeral

def digitValue (digit : Char) : Nat := digit.toNat - '0'.toNat

/-- A row of decimal digits, the most significant one first, and the number it stands for. -/
structure Digits (digits : List Char) (number : Nat) : Prop where
  filled : digits ≠ []
  decimal : ∀ digit ∈ digits, digit.isDigit = true
  number_eq : number = Nat.ofDigits 10 (digits.reverse.map digitValue)

inductive Signed : List Char → Bool → List Char → Prop where
  | minus (body : List Char) : Signed ('-' :: body) true body
  | plus (body : List Char) : Signed ('+' :: body) false body
  | bare {body : List Char} (unsigned : ∀ first ∈ body.head?, first ≠ '-' ∧ first ≠ '+') :
      Signed body false body

inductive Natural (bound : Nat) : List Char → Nat → Prop where
  | bare {digits : List Char} {number : Nat} (row : Digits digits number) (below : number < bound) :
      Natural bound digits number
  | plus {digits : List Char} {number : Nat} (row : Digits digits number) (below : number < bound) :
      Natural bound ('+' :: digits) number

inductive Exponent : List Char → Int → Prop where
  | missing : Exponent [] 0
  | given {mark : Char} {text digits : List Char} {negative : Bool} {number : Nat}
      (marked : mark = 'e' ∨ mark = 'E') (sign : Signed text negative digits)
      (row : Digits digits number) :
      Exponent (mark :: text) (if negative then -(number : Int) else number)

inductive Fraction : List Char → List Char → Prop where
  | missing : Fraction [] []
  | given (digits : List Char) : Fraction ('.' :: digits) digits

def Spells (word : String) (body : List Char) : Prop := body.map Char.toLower = word.toList

inductive Magnitude : List Char → Float32 → Prop where
  | infinite {body : List Char} (word : Spells "inf" body ∨ Spells "infinity" body) :
      Magnitude body (Float32.ofBits 0x7F800000)
  | notNumber {body : List Char} (word : Spells "nan" body) :
      Magnitude body (Float32.ofBits 0x7FC00000)
  | decimal {whole point fraction scale : List Char} {number : Nat} {exponent : Int}
      {magnitude : Float32} (pointed : Fraction point fraction)
      (row : Digits (whole ++ fraction) number) (scaled : Exponent scale exponent)
      (rounds : Binary32.RoundsTo (number * 10 ^ (exponent - fraction.length)) magnitude) :
      Magnitude (whole ++ point ++ scale) magnitude

inductive Decimal : List Char → Float32 → Prop where
  | signed {text body : List Char} {negative : Bool} {magnitude : Float32}
      (sign : Signed text negative body) (unsigned : Magnitude body magnitude) :
      Decimal text (if negative then -magnitude else magnitude)

/-!
## Digits
-/

private theorem foldl_digits (digits : List Char) :
    digits.foldl (fun value digit => 10 * value + (digit.toNat - '0'.toNat)) 0 =
      Nat.ofDigits 10 (digits.reverse.map digitValue) := by
  induction digits using List.reverseRecOn with
  | nil => rfl
  | append_singleton digits last ih =>
      rw [List.foldl_append, ih, List.reverse_append, List.reverse_singleton, List.singleton_append,
        List.map_cons, Nat.ofDigits_cons]
      exact Nat.add_comm _ _

theorem digitsValue?_eq_some_iff {digits : List Char} {number : Nat} :
    digitsValue? digits = some number ↔ Digits digits number := by
  cases digits with
  | nil =>
      constructor
      · intro read
        cases read
      · intro row
        exact absurd rfl row.filled
  | cons first rest =>
      simp only [digitsValue?, foldl_digits]
      constructor
      · intro read
        split at read
        · rename_i decimal
          exact ⟨List.cons_ne_nil _ _, List.all_eq_true.mp decimal, (Option.some.inj read).symm⟩
        · cases read
      · intro row
        rw [if_pos (List.all_eq_true.mpr row.decimal), row.number_eq]

private theorem Digits.head_isDigit {digits : List Char} {number : Nat}
    (row : Digits digits number) :
    ∃ first rest, digits = first :: rest ∧ first.isDigit = true := by
  cases digits with
  | nil => exact absurd rfl row.filled
  | cons first rest => exact ⟨first, rest, rfl, row.decimal first List.mem_cons_self⟩

theorem readNat?_eq_some_iff {bound : Nat} {numeral : String} {number : Nat} :
    readNat? bound numeral = some number ↔ Natural bound numeral.toList number := by
  simp only [readNat?, Option.filter_eq_some_iff, decide_eq_true_iff, digitsValue?_eq_some_iff]
  generalize numeral.toList = text
  constructor
  · rintro ⟨row, below⟩
    split at row
    · exact .plus row below
    · exact .bare row below
  · intro natural
    cases natural with
    | plus row below => exact ⟨row, below⟩
    | bare row below =>
        refine ⟨?_, below⟩
        split
        · rename_i rest
          have digit := row.decimal '+' List.mem_cons_self
          cases digit
        · exact row

theorem Natural.lt {bound : Nat} {text : List Char} {number : Nat}
    (natural : Natural bound text number) : number < bound := by
  cases natural with
  | bare row below | plus row below => exact below

theorem readNat?_eq_none {bound : Nat} {numeral : String}
    (noNumber : ∀ number, ¬Natural bound numeral.toList number) :
    readNat? bound numeral = none := by
  rw [Option.eq_none_iff_forall_ne_some]
  intro number read
  exact noNumber number (readNat?_eq_some_iff.mp read)

/-!
## Single-precision numbers
-/

theorem splitSign_eq_iff {text body : List Char} {negative : Bool} :
    splitSign text = (negative, body) ↔ Signed text negative body := by
  constructor
  · intro split
    unfold splitSign at split
    split at split
    · cases split
      exact .minus _
    · cases split
      exact .plus _
    · rename_i noMinus noPlus
      cases split
      refine .bare fun first head => ?_
      obtain ⟨rest, rfl⟩ := List.head?_eq_some_iff.mp head
      constructor
      · rintro rfl
        exact noMinus rest rfl
      · rintro rfl
        exact noPlus rest rfl
  · intro signed
    cases signed with
    | minus => rfl
    | plus => rfl
    | bare unsigned =>
        unfold splitSign
        split
        · exact absurd rfl (unsigned '-' rfl).1
        · exact absurd rfl (unsigned '+' rfl).2
        · rfl

private theorem readExponent?_eq_some_iff {text : List Char} {exponent : Int} :
    readExponent? text = some exponent ↔ Exponent text exponent := by
  cases text with
  | nil =>
      constructor
      · intro read
        cases read
        exact .missing
      · intro scaled
        cases scaled
        rfl
  | cons mark rest =>
      obtain ⟨negative, digits, sign⟩ : ∃ negative digits, splitSign rest = (negative, digits) :=
        ⟨_, _, rfl⟩
      simp only [readExponent?, sign]
      constructor
      · intro read
        split at read
        · rename_i marked
          obtain ⟨number, row, rfl⟩ : ∃ number, digitsValue? digits = some number ∧
              (if negative then -(number : Int) else number) = exponent := by
            simpa [Option.bind_eq_some_iff] using read
          exact .given marked (splitSign_eq_iff.mp sign) (digitsValue?_eq_some_iff.mp row)
        · cases read
      · intro scaled
        cases scaled with
        | given marked signed row =>
            rw [splitSign_eq_iff.mpr signed, Prod.mk.injEq] at sign
            obtain ⟨rfl, rfl⟩ := sign
            rw [if_pos marked, digitsValue?_eq_some_iff.mpr row]
            rfl

private theorem span_digits {digits rest : List Char}
    (decimal : ∀ digit ∈ digits, digit.isDigit = true)
    (ended : ∀ first ∈ rest.head?, first.isDigit = false) :
    (digits ++ rest).takeWhile Char.isDigit = digits ∧
      (digits ++ rest).dropWhile Char.isDigit = rest := by
  rw [List.takeWhile_append_of_pos decimal, List.dropWhile_append_of_pos decimal]
  cases rest with
  | nil => simp
  | cons first rest =>
      have stop := ended first rfl
      simp [stop]

private theorem exists_digits (text : List Char) :
    ∃ digits rest, text = digits ++ rest ∧ (∀ digit ∈ digits, digit.isDigit = true) ∧
      ∀ first ∈ rest.head?, first.isDigit = false := by
  refine ⟨text.takeWhile Char.isDigit, text.dropWhile Char.isDigit,
    List.takeWhile_append_dropWhile.symm, fun digit => List.mem_takeWhile_imp, ?_⟩
  intro first head
  have stop := List.head?_dropWhile_not Char.isDigit text
  rw [Option.mem_def.mp head] at stop
  exact stop

private theorem Exponent.ends_digits {text : List Char} {exponent : Int}
    (scaled : Exponent text exponent) :
    ∀ first ∈ text.head?, first.isDigit = false := by
  intro first head
  cases scaled with
  | missing => cases head
  | given marked sign row =>
      obtain rfl : _ = first := Option.some.inj head
      rcases marked with rfl | rfl <;> rfl

private theorem toLower_of_isDigit {digit : Char} (decimal : digit.isDigit = true) :
    digit.toLower = digit := by
  simp only [Char.isDigit, Bool.and_eq_true, decide_eq_true_iff] at decimal
  unfold Char.toLower
  refine dif_neg fun upper => ?_
  have apart : 'A'.val ≤ '9'.val := UInt32.le_trans upper.1 decimal.2
  exact absurd apart (by decide)

private theorem Spells.not_isDigit {word : String} {body : List Char} (spelled : Spells word body)
    (letters : word.toList.all (!·.isDigit) = true) :
    ∀ letter ∈ body, letter.isDigit = false := by
  intro letter member
  rw [← Bool.not_eq_true]
  intro decimal
  have lower : letter.toLower ∈ word.toList := by
    rw [← spelled]
    exact List.mem_map_of_mem member
  rw [toLower_of_isDigit decimal] at lower
  have other := List.all_eq_true.mp letters letter lower
  rw [decimal] at other
  cases other

theorem map_toLower_eq_iff {body : List Char} {word : String} :
    (String.ofList body).map Char.toLower = word ↔ Spells word body := by
  rw [← String.toList_inj, String.toList_map, String.toList_ofList, Spells]

/-- The parts of a decimal: nothing that could belong to an earlier part stands at the beginning of
a later one. -/
structure Parts (whole point fraction scale : List Char) : Prop where
  whole : ∀ digit ∈ whole, digit.isDigit = true
  pointed : Fraction point fraction
  fraction : ∀ digit ∈ fraction, digit.isDigit = true
  ended : ∀ first ∈ scale.head?, first.isDigit = false ∧ (point = [] → first ≠ '.')

private theorem exists_parts (body : List Char) :
    ∃ whole point fraction scale, body = whole ++ point ++ scale ∧
      Parts whole point fraction scale := by
  obtain ⟨whole, rest, rfl, decimal, ended⟩ := exists_digits body
  by_cases pointed : rest.head? = some '.'
  · obtain ⟨after, rfl⟩ := List.head?_eq_some_iff.mp pointed
    obtain ⟨fraction, scale, rfl, decimal', ended'⟩ := exists_digits after
    refine ⟨whole, '.' :: fraction, fraction, scale, ?_, decimal, .given fraction, decimal', ?_⟩
    · rw [List.append_assoc, List.cons_append]
    · intro first head
      exact ⟨ended' first head, nofun⟩
  · refine ⟨whole, [], [], rest, ?_, decimal, .missing, List.forall_mem_nil _, ?_⟩
    · rw [List.append_nil]
    · intro first head
      refine ⟨ended first head, fun _ => ?_⟩
      rintro rfl
      exact pointed head

private theorem readMagnitude?_of_parts {whole point fraction scale : List Char}
    (parts : Parts whole point fraction scale)
    (noWord : ∀ word ∈ ["inf", "infinity", "nan"], ¬Spells word (whole ++ point ++ scale)) :
    readMagnitude? (whole ++ point ++ scale) =
      (digitsValue? (whole ++ fraction)).bind fun number =>
        (readExponent? scale).map fun exponent =>
          nearest number (exponent - fraction.length) := by
  obtain ⟨noInf, noInfinity, noNan⟩ : ¬Spells "inf" (whole ++ point ++ scale) ∧
      ¬Spells "infinity" (whole ++ point ++ scale) ∧ ¬Spells "nan" (whole ++ point ++ scale) :=
    ⟨noWord _ (by simp), noWord _ (by simp), noWord _ (by simp)⟩
  obtain ⟨decimal, pointed, decimal', ended⟩ := parts
  cases pointed with
  | missing =>
      obtain ⟨taken, dropped⟩ := span_digits decimal fun first head => (ended first head).1
      rw [List.append_nil] at noInf noInfinity noNan ⊢
      have pointless (rest : List Char) : scale ≠ '.' :: rest := by
        rintro rfl
        exact (ended '.' rfl).2 rfl rfl
      simp only [readMagnitude?, map_toLower_eq_iff, noInf, noInfinity, noNan, or_self, if_false,
        taken, dropped, List.append_nil]
      cases digitsValue? whole with
      | none => rfl
      | some number => cases readExponent? scale <;> rfl
  | given =>
      obtain ⟨taken', dropped'⟩ := span_digits decimal' fun first head => (ended first head).1
      have behind : ∀ first ∈ ('.' :: (fraction ++ scale)).head?, first.isDigit = false := by
        intro first head
        cases head
        rfl
      obtain ⟨taken, dropped⟩ := span_digits decimal behind
      rw [List.append_assoc, List.cons_append] at noInf noInfinity noNan ⊢
      simp only [readMagnitude?, map_toLower_eq_iff, noInf, noInfinity, noNan, or_self, if_false,
        taken, dropped, taken', dropped']
      cases digitsValue? (whole ++ fraction) with
      | none => rfl
      | some number => cases readExponent? scale <;> rfl

private theorem Exponent.head_not_point {text : List Char} {exponent : Int}
    (scaled : Exponent text exponent) : ∀ first ∈ text.head?, first ≠ '.' := by
  intro first head
  cases scaled with
  | missing => cases head
  | given marked sign row =>
      obtain rfl : _ = first := Option.some.inj head
      rcases marked with rfl | rfl <;> decide

private theorem Digits.parts {whole point fraction scale : List Char} {number : Nat}
    {exponent : Int} (row : Digits (whole ++ fraction) number) (pointed : Fraction point fraction)
    (scaled : Exponent scale exponent) : Parts whole point fraction scale where
  whole digit member := row.decimal digit (List.mem_append_left _ member)
  pointed := pointed
  fraction digit member := row.decimal digit (List.mem_append_right _ member)
  ended first head := ⟨scaled.ends_digits first head, fun _ => scaled.head_not_point first head⟩

/-- A decimal has a digit, and a word has none. -/
theorem Digits.not_spells {whole point fraction : List Char} {number : Nat}
    (row : Digits (whole ++ fraction) number) (pointed : Fraction point fraction)
    (scale : List Char) : ∀ word ∈ ["inf", "infinity", "nan"],
      ¬Spells word (whole ++ point ++ scale) := by
  intro word listed spelled
  have letters : ∀ word ∈ ["inf", "infinity", "nan"],
      word.toList.all (!·.isDigit) = true := by decide
  obtain ⟨digit, rest, split, decimal⟩ := row.head_isDigit
  have member : digit ∈ whole ++ point ++ scale := by
    refine List.mem_append_left scale ?_
    have inside : digit ∈ whole ++ fraction := split ▸ List.mem_cons_self
    rcases List.mem_append.mp inside with before | behind
    · exact List.mem_append_left point before
    · cases pointed with
      | missing => cases behind
      | given => exact List.mem_append_right whole (List.mem_cons_of_mem _ behind)
  rw [spelled.not_isDigit (letters word listed) digit member] at decimal
  cases decimal

private theorem readMagnitude?_eq_some_iff {body : List Char} {magnitude : Float32} :
    readMagnitude? body = some magnitude ↔ Magnitude body magnitude := by
  constructor
  · intro read
    by_cases infinite : Spells "inf" body ∨ Spells "infinity" body
    · simp only [readMagnitude?, map_toLower_eq_iff, infinite, if_true] at read
      cases read
      exact .infinite infinite
    · by_cases notNumber : Spells "nan" body
      · simp only [readMagnitude?, map_toLower_eq_iff, infinite, notNumber, if_true, if_false]
          at read
        cases read
        exact .notNumber notNumber
      · have noWord : ∀ word ∈ ["inf", "infinity", "nan"], ¬Spells word body := by
          simp [not_or.mp infinite, notNumber]
        obtain ⟨whole, point, fraction, scale, rfl, parts⟩ := exists_parts body
        rw [readMagnitude?_of_parts parts noWord, Option.bind_eq_some_iff] at read
        obtain ⟨number, row, read⟩ := read
        obtain ⟨exponent, scaled, rfl⟩ := Option.map_eq_some_iff.mp read
        exact .decimal parts.pointed (digitsValue?_eq_some_iff.mp row)
          (readExponent?_eq_some_iff.mp scaled) (nearest_roundsTo _ _)
  · intro spelled
    cases spelled with
    | infinite word => simp only [readMagnitude?, map_toLower_eq_iff, word, if_true]
    | notNumber word =>
        have finite : ¬(Spells "inf" body ∨ Spells "infinity" body) := by
          rw [Spells, Spells, word]
          decide
        simp only [readMagnitude?, map_toLower_eq_iff, finite, word, if_true, if_false]
    | decimal pointed row scaled rounds =>
        rw [readMagnitude?_of_parts (row.parts pointed scaled) (row.not_spells pointed _),
          digitsValue?_eq_some_iff.mpr row, readExponent?_eq_some_iff.mpr scaled,
          rounds.unique (nearest_roundsTo _ _)]
        rfl

theorem readFloat?_eq_some_iff {numeral : String} {number : Float32} :
    readFloat? numeral = some number ↔ Decimal numeral.toList number := by
  obtain ⟨negative, body, sign⟩ : ∃ negative body, splitSign numeral.toList = (negative, body) :=
    ⟨_, _, rfl⟩
  simp only [readFloat?, sign]
  constructor
  · intro read
    obtain ⟨magnitude, unsigned, rfl⟩ := Option.map_eq_some_iff.mp read
    exact .signed (splitSign_eq_iff.mp sign) (readMagnitude?_eq_some_iff.mp unsigned)
  · intro spelled
    cases spelled with
    | signed signed unsigned =>
        rw [splitSign_eq_iff.mpr signed, Prod.mk.injEq] at sign
        obtain ⟨rfl, rfl⟩ := sign
        rw [readMagnitude?_eq_some_iff.mpr unsigned]
        rfl

theorem readFloat?_eq_none {numeral : String}
    (noNumber : ∀ number, ¬Decimal numeral.toList number) : readFloat? numeral = none := by
  rw [Option.eq_none_iff_forall_ne_some]
  intro number read
  exact noNumber number (readFloat?_eq_some_iff.mp read)

end PagePaint.Numeral
