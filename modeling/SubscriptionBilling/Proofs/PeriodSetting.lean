import Mathlib
import SubscriptionBilling.Proofs.Caseless
import SubscriptionBilling.Proofs.Numerals
import SubscriptionBilling.Proofs.Variables
/-!
# The setting of the billing period

Which texts are read as how many days, and let in as a billing period, if nothing
else is set (`loadValid_period_iff`).  A numeral is read as its number, as one
would expect.  But the type of a text is guessed, and what was guessed is turned
into a number of days: so the text of any other number is rounded, a half upwards,
and the words for on count as one day.  Both are let in where the result is between
1 and 366 (`fraction_loaded`).
-/

namespace SubscriptionBilling

namespace Text

/-! ## Words that are no numbers -/

/-- What a number can begin with: a digit, a sign or a point, or a letter of the
words for infinity and for what is not a number. -/
def opensNumber (c : Char) : Bool :=
  c.isDigit || c ∈ ['+', '-', '.'] || c.toLower ∈ ['i', 'n']

/-- No number begins with a character that is no digit, no sign, no point, and no first
letter of a word for infinity or for no number, of either case. -/
theorem not_opensNumber_iff {c : Char} : opensNumber c = false ↔
    c.isDigit = false ∧ c ∉ ['+', '-', '.'] ∧ c.toLower ∉ ['i', 'n'] := by
  simp only [opensNumber, Bool.or_eq_false_iff, decide_eq_false_iff_not, and_assoc]

/-- A text that opens no number is no integer. -/
theorem integer?_of_not_opens {c : Char} {rest : List Char} (h : opensNumber c = false) :
    integer? (c :: rest) = none := by
  obtain ⟨hdigit, hsign, -⟩ := not_opensNumber_iff.mp h
  have hdigits : digits? (c :: rest) = none := by
    rw [Option.eq_none_iff_forall_ne_some]
    intro n hn
    rw [(digits?_eq_some_iff.mp hn).head] at hdigit
    cases hdigit
  unfold integer?
  split
  · rename_i heq
    obtain ⟨rfl, -⟩ := List.cons.inj heq
    exact absurd (by decide) hsign
  · rename_i heq
    obtain ⟨rfl, -⟩ := List.cons.inj heq
    exact absurd (by decide) hsign
  · rw [hdigits]
    rfl

/-- A letter that a word for on or off begins with. -/
def opensWord (c : Char) : Bool := c.toLower ∈ ['t', 'f', 'o', 'y']

/-- Digits, signs and the point open none of the words for truth. -/
theorem opensWord_of_lt {c : Char} (h : c.toNat < 65) : opensWord c = false := by
  rw [opensWord, toLower_of_lt h]
  simp only [List.mem_cons, List.not_mem_nil, or_false, decide_eq_false_iff_not, not_or]
  refine ⟨?_, ?_, ?_, ?_⟩ <;> rintro rfl <;> exact absurd h (by decide)

/-- What opens a word for truth opens no number. -/
theorem not_opensNumber_of_word {c : Char} (h : opensWord c = true) : opensNumber c = false := by
  have hletter : c.toLower ∈ ['t', 'f', 'o', 'y'] := of_decide_eq_true h
  have hlarge : 65 ≤ c.toNat := by
    by_contra hsmall
    rw [opensWord_of_lt (by omega)] at h
    cases h
  refine not_opensNumber_iff.mpr ⟨?_, ?_, fun hother => ?_⟩
  · by_contra hdigit
    rw [Bool.not_eq_false] at hdigit
    have hrange := toNat_of_isDigit hdigit
    omega
  · intro hsign
    simp only [List.mem_cons, List.not_mem_nil, or_false] at hsign
    rcases hsign with rfl | rfl | rfl <;> exact absurd hlarge (by decide)
  · generalize c.toLower = d at hletter hother
    simp only [List.mem_cons, List.not_mem_nil, or_false] at hletter hother
    rcases hother with rfl | rfl <;> simp at hletter

end Text

namespace Double

open Text

variable {c : Char} {rest : List Char}

/-- A text that opens no number is no numeral with decimals or an exponent. -/
theorem numeral?_of_not_opens (h : opensNumber c = false) :
    numeral? false (c :: rest) = none := by
  obtain ⟨hdigit, hsign, -⟩ := not_opensNumber_iff.mp h
  have hsplit : splitDigits (c :: rest) = ([], c :: rest) := by
    rw [splitDigits, List.takeWhile_cons_of_neg (by simp [hdigit]),
      List.dropWhile_cons_of_neg (by simp [hdigit])]
  unfold numeral?
  rw [hsplit]
  dsimp only
  split
  · rename_i heq
    obtain ⟨rfl, -⟩ := List.cons.inj heq
    exact absurd (by decide) hsign
  · rfl

/-- A text that opens no number is neither a numeral nor a word for infinity or for no
number. -/
theorem magnitude?_of_not_opens (h : opensNumber c = false) :
    magnitude? false (c :: rest) = none := by
  obtain ⟨-, -, hletter⟩ := not_opensNumber_iff.mp h
  have hword : ∀ word : String, (∀ d ∈ word.toList.head?, d ∈ ['i', 'n']) →
      String.ofList ((c :: rest).map Char.toLower) ≠ word := by
    rintro word hhead rfl
    refine hletter (hhead c.toLower ?_)
    rw [String.toList_ofList]
    rfl
  unfold magnitude?
  dsimp only
  rw [if_neg (not_or.mpr ⟨hword _ (by simp), hword _ (by simp)⟩), if_neg (hword _ (by simp)),
    numeral?_of_not_opens h]

/-- A text that opens no number is no double, and so it is never rounded. -/
theorem ofText?_of_not_opens {s : String} (hs : s.toList = c :: rest)
    (h : opensNumber c = false) : ofText? s = none := by
  obtain ⟨-, hsign, -⟩ := not_opensNumber_iff.mp h
  unfold ofText?
  rw [hs]
  split
  · rename_i heq
    obtain ⟨rfl, -⟩ := List.cons.inj heq
    exact absurd (by decide) hsign
  · rename_i heq
    obtain ⟨rfl, -⟩ := List.cons.inj heq
    exact absurd (by decide) hsign
  · exact magnitude?_of_not_opens h

end Double

namespace Binary64

/-- A natural number is nearest to a double, a half being nearer to the number
above it. -/
def RoundsTo (x : Binary64) (n : Nat) : Prop :=
  2 * n * x.ratio.2 ≤ 2 * x.ratio.1 + x.ratio.2 ∧ 2 * x.ratio.1 < (2 * n + 1) * x.ratio.2

theorem ratio_pos (x : Binary64) : 0 < x.ratio.2 := by
  unfold ratio shifted
  split
  · exact Nat.one_pos
  · rw [Nat.one_mul]
    exact Nat.pow_pos (by decide)

/-- A double is rounded to a number just if it is nearest to it, and to the higher one
of two that are equally near. -/
theorem roundHalfUp_eq_iff {x : Binary64} {n : Nat} : x.roundHalfUp = n ↔ x.RoundsTo n := by
  have hpos := x.ratio_pos
  unfold RoundsTo
  show (2 * x.ratio.1 + x.ratio.2) / (2 * x.ratio.2) = n ↔ _
  have hlow : n * (2 * x.ratio.2) = 2 * (n * x.ratio.2) := by ring
  have hlow' : 2 * n * x.ratio.2 = 2 * (n * x.ratio.2) := by ring
  have hhigh : (2 * n + 1) * x.ratio.2 = 2 * (n * x.ratio.2) + x.ratio.2 := by ring
  rw [Nat.div_eq_iff (by omega), hlow, hlow', hhigh]
  omega

end Binary64

namespace Settings

open Text

/-- The variable that sets the billing period. -/
def periodVariable : String := "BILLING_CORE__BILLING__BILLING_PERIOD_DAYS"

/-- The variable for the period leads to its own place in the settings. -/
theorem variablePath?_period :
    variablePath? periodVariable = some ⟨"billing", [.entry "billing_period_days"]⟩ := by
  cbv

/-! ## Numbers of days -/

theorem ofNat_inj {m n : Nat} (hm : m < UInt32.size) (hn : n < UInt32.size)
    (h : UInt32.ofNat m = UInt32.ofNat n) : m = n := by
  have heq := congrArg UInt32.toNat h
  rwa [UInt32.toNat_ofNat_of_lt' hm, UInt32.toNat_ofNat_of_lt' hn] at heq

/-- A number is let in as one of 32 bits just if it is that one. -/
theorem asWord32_eq_ok_iff {key : String} {m n : Nat} (h : n < UInt32.size) :
    asWord32 key m = .ok (UInt32.ofNat n) ↔ m = n := by
  unfold asWord32
  constructor
  · intro hok
    split at hok
    · rename_i hm
      exact ofNat_inj hm h (Except.ok.inj hok)
    · cases hok
  · rintro rfl
    rw [if_pos h]

/-- A switch counts as one day or as none. -/
theorem asDays_switch {b : Bool} {n : Nat} (hpositive : 1 ≤ n) (hn : n < UInt32.size)
    (h : (Except.ok (if b then 1 else 0) : Except LoadError UInt32) = .ok (UInt32.ofNat n)) :
    b = true ∧ n = 1 := by
  have hdays := Except.ok.inj h
  cases b with
  | true => exact ⟨rfl, (ofNat_inj (m := 1) (by decide) hn hdays).symm⟩
  | false =>
      have hzero : 0 = n := ofNat_inj (m := 0) (by decide) hn hdays
      omega

/-- A double is a number of days if it is rounded to it. -/
theorem clamped_eq_iff {x : Double} {n : Nat} (hpositive : 1 ≤ n) (hn : n < UInt32.size) :
    x.clamped largestWord = n ↔
      ∃ y, x = .finite y ∧ y.negative = false ∧ y.RoundsTo n := by
  have hbound : n < largestWord := lt_trans hn (by decide)
  cases x with
  | finite y =>
      simp only [Double.clamped, Double.finite.injEq, exists_eq_left', ← y.roundHalfUp_eq_iff]
      cases y.negative with
      | true =>
          simp only [if_true, Bool.true_eq_false, false_and, iff_false]
          omega
      | false =>
          simp only [Bool.false_eq_true, if_false, true_and]
          omega
  | infinite negative =>
      simp only [Double.clamped, reduceCtorEq, false_and, exists_false, iff_false]
      cases negative with
      | true =>
          rw [if_pos rfl]
          omega
      | false =>
          rw [if_neg Bool.false_ne_true]
          omega
  | notANumber =>
      simp only [Double.clamped, reduceCtorEq, false_and, exists_false, iff_false]
      omega

/-- What stands for a positive number of days. -/
inductive MeansDays (v : String) (n : Nat) : Prop
  /-- The numeral of the number. -/
  | numeral (h : IsNumeral v.toList n)
  /-- A number that is no integer of 64 bits, and that is rounded. -/
  | rounded (x : Binary64) (hother : word64? v = none)
      (hdouble : Double.ofText? v = some (.finite x)) (hsign : x.negative = false)
      (hround : x.RoundsTo n)
  /-- A word for on, in any case. -/
  | switched (hword : v.toList.map Char.toLower ∈ ["true", "on", "yes"].map String.toList)
      (hone : n = 1)

section Guess

variable {v : String} {n : Nat} {key : String}

/-- The lower-case forms that matter here are plain. -/
theorem lowercase_eq_word_iff {word : String}
    (h : word ∈ ["true", "false", "on", "yes", "1"]) :
    lowercase v = word ↔ v.toList.map Char.toLower = word.toList := by
  apply lowercase_eq_iff
  simp only [List.mem_cons, List.not_mem_nil, or_false] at h
  rcases h with rfl | rfl | rfl | rfl | rfl <;> simp [isPlain]

/-- What does not begin like a number is neither an integer nor a double. -/
theorem not_number_of_not_opens {c : Char} {rest : List Char} (hv : v.toList = c :: rest)
    (h : opensNumber c = false) : word64? v = none ∧ Double.ofText? v = none := by
  refine ⟨?_, Double.ofText?_of_not_opens hv h⟩
  rw [word64?, hv, integer?_of_not_opens h]
  rfl

/-- A word is neither an integer nor a double. -/
theorem not_number_of_word {word : String} (h : lowercase v = word)
    (hword : word ∈ ["true", "false", "on", "yes"]) :
    word64? v = none ∧ Double.ofText? v = none := by
  have hmap := (lowercase_eq_word_iff (List.mem_append_left ["1"] hword)).mp h
  have hopens : ∃ c rest, v.toList = c :: rest ∧ opensWord c = true := by
    cases hv : v.toList with
    | nil =>
        rw [hv] at hmap
        simp only [List.mem_cons, List.not_mem_nil, or_false] at hword
        rcases hword with rfl | rfl | rfl | rfl <;> simp at hmap
    | cons c rest =>
        rw [hv] at hmap
        refine ⟨c, rest, rfl, decide_eq_true ?_⟩
        simp only [List.mem_cons, List.not_mem_nil, or_false] at hword
        rcases hword with rfl | rfl | rfl | rfl <;> simp at hmap <;> simp [hmap.1]
  obtain ⟨c, rest, hv, hc⟩ := hopens
  exact not_number_of_not_opens hv (not_opensNumber_of_word hc)

/-- There are four words for true; as a number of days each of them counts one. -/
theorem switch?_eq_some_true_iff {word : String} :
    switch? word = some true ↔ word = "1" ∨ word = "true" ∨ word = "on" ∨ word = "yes" := by
  unfold switch?
  split
  · simp [*]
  · split <;> simp [*]

/-- The numeral of a number of days is read as an integer. -/
theorem word64?_of_numeral (hpositive : 1 ≤ n) (hn : n < UInt32.size)
    (h : IsNumeral v.toList n) : word64? v = some (n : Int) := by
  have hbound : n < 4294967296 := hn
  rw [word64?, (integer?_eq_some_iff hpositive).mpr h]
  refine Option.filter_eq_some_iff.mpr ⟨rfl, ?_⟩
  simp only [isWord64, Bool.and_eq_true, decide_eq_true_eq]
  omega

/-- The only text whose lower-case form is a one is a numeral. -/
theorem word64?_of_one (h : lowercase v = "1") : word64? v = some 1 := by
  have hmap : v.toList.map Char.toLower = ['1'] := by
    rw [(lowercase_eq_word_iff (by simp)).mp h]
    simp
  obtain ⟨c, hv, hc⟩ := List.map_eq_singleton_iff.mp hmap
  have hsame : c.toLower = c := toLower_of_toLower_lt (by rw [hc]; decide)
  have hone : v.toList = ['1'] := by rw [hv, ← hsame, hc]
  have hspells : Spells ['1'] 1 := spells_decimal 1
  exact word64?_of_numeral (n := 1) le_rfl (by decide) ⟨['1'], hspells, .inl hone⟩

/-- Whatever is read as a positive number of days stands for it. -/
theorem meansDays_of_asDays (hpositive : 1 ≤ n) (hn : n < UInt32.size)
    (h : asDays key (.guess v) = .ok (.ofNat n)) : MeansDays v n := by
  have hguess := guessed v
  generalize Setting.guess v = setting at h hguess
  cases hguess with
  | on hword =>
      have hmap := (lowercase_eq_word_iff (by simp)).mp hword
      exact .switched (by rw [hmap]; simp) (asDays_switch hpositive hn h).2
  | off hword => cases (asDays_switch hpositive hn h).1
  | integer i hinteger =>
      cases i with
      | negSucc m => cases h
      | ofNat m =>
          obtain rfl : m = n := (asWord32_eq_ok_iff hn).mp h
          have hread : integer? v.toList = some (m : Int) :=
            (Option.filter_eq_some_iff.mp hinteger).1
          exact .numeral ((integer?_eq_some_iff hpositive).mp hread)
  | double x hinteger hdouble =>
      obtain ⟨y, rfl, hsign, hround⟩ :=
        (clamped_eq_iff hpositive hn).mp ((asWord32_eq_ok_iff hn).mp h)
      exact .rounded y hinteger hdouble hsign hround
  | text hinteger hdouble htrue =>
      simp only [asDays] at h
      cases hswitch : switch? (lowercase v) with
      | none =>
          rw [hswitch] at h
          cases h
      | some b =>
          rw [hswitch] at h
          obtain ⟨rfl, hone⟩ := asDays_switch hpositive hn h
          rcases switch?_eq_some_true_iff.mp hswitch with hword | hword | hword | hword
          · rw [word64?_of_one hword] at hinteger
            cases hinteger
          · exact absurd hword htrue
          · have hmap := (lowercase_eq_word_iff (by simp)).mp hword
            exact .switched (by rw [hmap]; simp) hone
          · have hmap := (lowercase_eq_word_iff (by simp)).mp hword
            exact .switched (by rw [hmap]; simp) hone

/-- Whatever stands for a positive number of days is read as it. -/
theorem asDays_of_meansDays (hpositive : 1 ≤ n) (hn : n < UInt32.size) (h : MeansDays v n) :
    asDays key (.guess v) = .ok (.ofNat n) := by
  have hnot : (word64? v ≠ none ∨ Double.ofText? v ≠ none) →
      lowercase v ≠ "true" ∧ lowercase v ≠ "false" := by
    intro hnumber
    constructor <;> intro hword <;>
      obtain ⟨hinteger, hdouble⟩ := not_number_of_word hword (by simp) <;>
      exact hnumber.elim (absurd hinteger) (absurd hdouble)
  cases h with
  | numeral hnumeral =>
      have hinteger := word64?_of_numeral hpositive hn hnumeral
      obtain ⟨htrue, hfalse⟩ := hnot (.inl (by simp [hinteger]))
      rw [guess_of_number htrue hfalse, hinteger]
      exact (asWord32_eq_ok_iff hn).mpr rfl
  | rounded x hother hdouble hsign hround =>
      obtain ⟨htrue, hfalse⟩ := hnot (.inr (by simp [hdouble]))
      rw [guess_of_number htrue hfalse, hother, hdouble]
      exact (asWord32_eq_ok_iff hn).mpr
        ((clamped_eq_iff hpositive hn).mpr ⟨x, rfl, hsign, hround⟩)
  | switched hword hone =>
      subst hone
      simp only [List.map_cons, List.map_nil, List.mem_cons, List.not_mem_nil, or_false] at hword
      have hcase : lowercase v = "true" ∨ lowercase v = "on" ∨ lowercase v = "yes" := by
        rcases hword with h | h | h
        · exact .inl ((lowercase_eq_word_iff (by simp)).mpr h)
        · exact .inr (.inl ((lowercase_eq_word_iff (by simp)).mpr h))
        · exact .inr (.inr ((lowercase_eq_word_iff (by simp)).mpr h))
      by_cases htrue : lowercase v = "true"
      · have hguess : Setting.guess v = .truth true := if_pos htrue
        rw [hguess]
        rfl
      · have hswitch := switch?_eq_some_true_iff.mpr (.inr hcase)
        have hother := hcase.resolve_left htrue
        have hfalse : lowercase v ≠ "false" := by
          rcases hother with h | h <;> rw [h] <;> decide
        obtain ⟨hinteger, hdouble⟩ : word64? v = none ∧ Double.ofText? v = none := by
          rcases hother with h | h
          · exact not_number_of_word h (by simp)
          · exact not_number_of_word h (by simp)
        rw [guess_of_number htrue hfalse, hinteger, hdouble]
        simp only [asDays, hswitch]
        rfl

end Guess

/-! ## The billing period -/

/-- The default settings but for the billing period. -/
def withPeriod (days : UInt32) : Settings :=
  { default with billing := { Billing.default with periodDays := days } }

/-- A tree with nothing but a billing period. -/
theorem ofSetting_period (days : Setting) :
    ofSetting (.table [("billing", .table [("billing_period_days", days)])])
      = (asDays "billing.billing_period_days" days).map withPeriod := by
  have hdays : readMember (.table [("billing_period_days", days)]) "billing"
      "billing_period_days" 0 Billing.default.periodDays asDays =
        asDays "billing.billing_period_days" days := rfl
  have hplan : readMember (.table [("billing_period_days", days)]) "billing" "default_plan_id" 1
      Billing.default.defaultPlan asText = .ok Billing.default.defaultPlan := rfl
  rw [ofSetting_billing, Billing.ofSetting, hdays, hplan]
  cases asDays "billing.billing_period_days" days with
  | ok n => rfl
  | error e => rfl

theorem Logging.validate_default : Logging.default.validate = .ok () := by
  cbv

/-- Of the settings that differ from the default ones in the period, those with one day
up to 366 are valid. -/
theorem validate_withPeriod {days : UInt32} :
    (withPeriod days).validate = .ok () ↔ 1 ≤ days.toNat ∧ days.toNat ≤ 366 := by
  have hplan : Text.allBlank Billing.default.defaultPlan = false := by cbv
  have hbilling : (withPeriod days).validate =
      if days = 0 ∨ Billing.longestPeriod < days then .error (.billingPeriod days) else .ok () := by
    show (Logging.default.validate.bind fun _ => (withPeriod days).billing.validate) = _
    rw [Logging.validate_default]
    show (if days = 0 ∨ Billing.longestPeriod < days then _
      else if Text.allBlank Billing.default.defaultPlan = true then _ else _) = _
    rw [hplan]
    rfl
  have hlongest : Billing.longestPeriod.toNat = 366 := rfl
  rw [hbilling, ite_eq_right_iff]
  simp only [reduceCtorEq, imp_false, not_or, UInt32.not_lt, UInt32.le_iff_toNat_le, hlongest,
    ← UInt32.toNat_inj, UInt32.toNat_zero]
  omega

/-- A billing period is loaded just if its text is read as a number of days. -/
theorem load_period_iff {env : OrderedMap String String} {v : String}
    (h : OnlySet env periodVariable v) {s : Settings} :
    load env = some (.ok s) ↔
      ∃ days, asDays "billing.billing_period_days" (.guess v) = .ok days ∧ s = withPeriod days := by
  have htree : Setting.ofVariables? env =
      some (.table [("billing", .table [("billing_period_days", .guess v)])]) :=
    h.ofVariables? variablePath?_period
  rw [load, htree, Option.map_some, Option.some.injEq, ofSetting_period]
  cases asDays "billing.billing_period_days" (.guess v) with
  | error e =>
      refine ⟨(nomatch ·), ?_⟩
      rintro ⟨days, hdays, -⟩
      cases hdays
  | ok days =>
      constructor
      · intro hok
        exact ⟨days, rfl, (Except.ok.inj hok).symm⟩
      · rintro ⟨days', hdays, rfl⟩
        obtain rfl : days = days' := Except.ok.inj hdays
        rfl

/-- **Which billing periods are let in.**  If nothing else is set, then the settings
are valid just for the texts that stand for 1 to 366 days, and have this period. -/
theorem loadValid_period_iff {env : OrderedMap String String} {v : String}
    (h : OnlySet env periodVariable v) {s : Settings} :
    loadValid env = some (.ok s) ↔
      ∃ n : Nat, 1 ≤ n ∧ n ≤ 366 ∧ MeansDays v n ∧ s = withPeriod (.ofNat n) := by
  have hword : ∀ n, n ≤ 366 → n < UInt32.size := fun n hn => lt_of_le_of_lt hn (by decide)
  rw [loadValid_eq_ok_iff, load_period_iff h]
  constructor
  · rintro ⟨⟨days, hdays, rfl⟩, hvalid⟩
    obtain ⟨hlow, hhigh⟩ := validate_withPeriod.mp hvalid
    rw [← UInt32.ofNat_toNat (x := days)] at hdays
    refine ⟨days.toNat, hlow, hhigh, meansDays_of_asDays hlow (hword _ hhigh) hdays, ?_⟩
    rw [UInt32.ofNat_toNat]
  · rintro ⟨n, hlow, hhigh, hmeans, rfl⟩
    refine ⟨⟨.ofNat n, asDays_of_meansDays hlow (hword n hhigh) hmeans, rfl⟩, ?_⟩
    rw [validate_withPeriod, UInt32.toNat_ofNat_of_lt' (hword n hhigh)]
    exact ⟨hlow, hhigh⟩

/-- Variables that do not count do no harm, nor do a sign and zeros in front of a
number. -/
theorem longest_period_loaded :
    OnlySet ((OrderedMap.empty.set "PATH" "/bin").set periodVariable "+0366")
        periodVariable "+0366"
      ∧ loadValid ((OrderedMap.empty.set "PATH" "/bin").set periodVariable "+0366")
        = some (.ok (withPeriod 366)) := by
  have hset : OnlySet ((OrderedMap.empty.set "PATH" "/bin").set periodVariable "+0366")
      periodVariable "+0366" := by
    refine ⟨OrderedMap.find?_set .. |>.trans (if_pos rfl), ?_⟩
    intro other hother hne
    rcases OrderedMap.mem_keys_set.mp hother with heq | hother
    · exact absurd heq hne
    rcases OrderedMap.mem_keys_set.mp hother with rfl | hnone
    · rfl
    · cases hnone
  have hnumeral : IsNumeral "+0366".toList 366 := ⟨padded 4 366, spells_padded 4 366, .inr rfl⟩
  exact ⟨hset, (loadValid_period_iff hset).mpr
    ⟨366, by decide, by decide, .numeral hnumeral, rfl⟩⟩

/-- A word for on is a period of one day. -/
example : loadValid (OrderedMap.empty.set periodVariable "Yes") = some (.ok (withPeriod 1)) := by
  rfl

/-- Half a day is rounded up, though the text is not the numeral of a number. -/
theorem fraction_loaded :
    OnlySet (OrderedMap.empty.set periodVariable "30.5") periodVariable "30.5"
      ∧ loadValid (OrderedMap.empty.set periodVariable "30.5") = some (.ok (withPeriod 31))
      ∧ ¬ ∃ n, IsNumeral "30.5".toList n := by
  refine ⟨onlySet_set periodVariable "30.5", rfl, ?_⟩
  rintro ⟨n, digits, hspells, hdigits | hplus⟩
  · have hpoint : '.' ∈ digits := by
      rw [← hdigits]
      simp
    cases hspells.isDigit '.' hpoint
  · simp at hplus

end Settings

end SubscriptionBilling
