import LeftRec.Proofs.Answers
import LeftRec.Proofs.Formula

/-!
# Numerals — decimal numbers and where they overflow

A number is read from the longest run of digits at a position.  Its value is put together digit by
digit in 64 bits, so digits are worth their decimal number exactly if that fits.  Otherwise the
longest part of them that fits decides which operation overflows on the digit behind it.
-/

namespace LeftRec

namespace Samples

/-- The longest part of some digits, from the first one on, whose number fits. -/
structure LongestFitting (digits head : List Char) : Prop where
  begins : head <+: digits
  fits : Nat.ofDigitChars 10 head 0 < 2 ^ 63
  longest : ∀ other, other <+: digits → Nat.ofDigitChars 10 other 0 < 2 ^ 63 →
    other.length ≤ head.length

theorem fits_natCast {n : Nat} : Checked.Fits n ↔ n < 2 ^ 63 := by
  simp only [Checked.Fits]
  omega

/-- More digits do not make a number smaller. -/
theorem ofDigitChars_le_of_prefix {digits more : List Char} (h : digits <+: more) :
    Nat.ofDigitChars 10 digits 0 ≤ Nat.ofDigitChars 10 more 0 := by
  obtain ⟨rest, rfl⟩ := h
  rw [Nat.ofDigitChars_append]
  exact le_ofDigitChars rest _

/-- Which operation overflows on a digit that cannot be put behind a number. -/
def overflowing (n : Nat) : Arithmetic :=
  if 2 ^ 63 ≤ 10 * n then .multiply else .add

/-- Where the number of some digits and one more does not fit, the digits before it are the longest
that do, and putting the digit behind them overflows. -/
theorem longestFitting_of_not_fits {head rest : List Char} {digit : Char}
    (hfits : Nat.ofDigitChars 10 head 0 < 2 ^ 63)
    (hmore : 2 ^ 63 ≤ Nat.ofDigitChars 10 (head ++ [digit]) 0) :
    LongestFitting (head ++ digit :: rest) head := by
  refine ⟨List.prefix_append head _, hfits, fun other hother hotherFits => ?_⟩
  by_contra hlonger
  -- A longer part has the digit that is one too many.
  have hwith : head ++ [digit] <+: head ++ digit :: rest := ⟨rest, by simp⟩
  have hlength : (head ++ [digit]).length ≤ other.length := by
    rw [List.length_append, List.length_singleton]
    omega
  have hle := ofDigitChars_le_of_prefix (List.prefix_of_prefix_length_le hwith hother hlength)
  omega

/-- Digits whose number does not fit overflow behind the longest part of them that does. -/
theorem foldlM_appendDigit_of_overflow {head rest : List Char}
    (hfits : Nat.ofDigitChars 10 head 0 < 2 ^ 63)
    (hall : 2 ^ 63 ≤ Nat.ofDigitChars 10 (head ++ rest) 0) :
    ∃ longest, LongestFitting (head ++ rest) longest ∧
      rest.foldlM Parser.appendDigit (Nat.ofDigitChars 10 head 0 : Nat) =
        .error (.overflow (overflowing (Nat.ofDigitChars 10 longest 0))) := by
  induction rest generalizing head with
  | nil =>
      rw [List.append_nil] at hall
      omega
  | cons digit rest ih =>
      have hsnoc : Nat.ofDigitChars 10 (head ++ [digit]) 0 =
          10 * Nat.ofDigitChars 10 head 0 + (digit.toNat - '0'.toNat) := by
        rw [Nat.ofDigitChars_append]
        rfl
      rw [List.foldlM_cons, appendDigit_eq, ← hsnoc]
      by_cases hmore : Nat.ofDigitChars 10 (head ++ [digit]) 0 < 2 ^ 63
      · rw [if_pos (fits_natCast.2 hmore)]
        have hassoc : head ++ digit :: rest = (head ++ [digit]) ++ rest := by simp
        rw [hassoc] at hall ⊢
        exact ih hmore hall
      · refine ⟨head, longestFitting_of_not_fits hfits (Nat.le_of_not_lt hmore), ?_⟩
        have hproduct : Checked.Fits (Nat.ofDigitChars 10 head 0 * 10) ↔
            ¬ 2 ^ 63 ≤ 10 * Nat.ofDigitChars 10 head 0 := by
          simp only [Checked.Fits]
          omega
        rw [if_neg (mt fits_natCast.1 hmore), overflowing]
        by_cases htimes : 2 ^ 63 ≤ 10 * Nat.ofDigitChars 10 head 0
        · rw [if_neg (mt hproduct.1 (not_not.2 htimes)), if_pos htimes]
          rfl
        · rw [if_pos (hproduct.2 htimes), if_neg htimes]
          rfl

example : "9223372036854775808".toList.foldlM Parser.appendDigit 0 = .error (.overflow .add) := by
  decide +kernel

example : "9223372036854775810".toList.foldlM Parser.appendDigit 0 =
    .error (.overflow .multiply) := by
  decide +kernel

theorem foldlM_appendDigit_of_fits {digits : List Char}
    (hfits : Nat.ofDigitChars 10 digits 0 < 2 ^ 63) :
    digits.foldlM Parser.appendDigit 0 = .ok (Nat.ofDigitChars 10 digits 0 : Int) := by
  have hzero : Checked.Fits (0 : Nat) := by decide
  refine (foldlM_appendDigit_eq_ok hzero).2 ?_
  rw [fitting, if_pos (fits_natCast.2 hfits)]

end Samples

/-! ## Runs of digits -/

namespace Input

/-- The ASCII digits from a position on. -/
def digits (input : Input Char) (pos : Nat) : List Char :=
  (input.rest pos).takeWhile Char.isDigit

theorem isDigit_of_mem_digits {input : Input Char} {pos : Nat} {c : Char}
    (h : c ∈ input.digits pos) : c.isDigit = true :=
  List.all_eq_true.1 List.all_takeWhile c h

/-- No further digit stands behind the digits. -/
theorem isDigit_behind_digits {input : Input Char} {pos stop : Nat}
    (hread : input.Reads pos (input.digits pos) stop) :
    ∀ c after, input.next? stop = some (c, after) → c.isDigit = false := by
  intro c after hnext
  have hsplit : input.digits pos ++ (input.rest pos).dropWhile Char.isDigit =
      input.digits pos ++ input.rest stop := List.takeWhile_append_dropWhile.trans hread.rest_eq
  have hbehind := List.append_cancel_left hsplit
  obtain ⟨c', hhead, heq⟩ := Option.map_eq_some_iff.1 hnext
  obtain ⟨rfl, -⟩ := Prod.mk.inj heq
  rw [← hbehind] at hhead
  simpa [hhead] using List.head?_dropWhile_not Char.isDigit (input.rest pos)

/-- In text a digit is as wide as its number of bytes, which is one. -/
theorem span_digits (text : String) {word : List Char} (hword : ∀ c ∈ word, c.isDigit = true) :
    span (ofText text).width word = word.length := by
  induction word with
  | nil => rfl
  | cons c rest ih =>
      have hwidth : (ofText text).width c = 1 := by
        have hdigit := hword c List.mem_cons_self
        simp only [Char.isDigit, Bool.and_eq_true, decide_eq_true_eq] at hdigit
        have hsmall : c.val ≤ 127 := UInt32.le_trans hdigit.2 (by decide)
        exact Char.utf8Size_eq_one_iff.2 hsmall
      rw [span, hwidth, ih fun u hu => hword u (List.mem_cons_of_mem c hu), List.length_cons,
        Nat.add_comm]

end Input

namespace Grammar

variable {ρ ν : Type} {T : Type → Type} [MemoTable T]

/-- A number is read from the digits at a position.  Without any a number was expected there; digits
whose number fits are worth that number, and any others stop the parse at the operation that
overflows behind the longest part of them that fits. -/
theorem run_number (G : Grammar (TextSignature ρ ν)) (text : String) {fuel pos : Nat}
    (hfuel : (Input.ofText text).remaining pos ≤ fuel) (ctx : Context)
    (state : State (TextSignature ρ ν) T) :
    let input := Input.ofText text
    let digits := input.digits pos
    let value := Nat.ofDigitChars 10 digits 0
    (digits = [] →
      G.run input (fuel + 1) Parser.number pos ctx state =
        .done (.fail (.expecting "number") pos) state) ∧
    (digits ≠ [] → value < 2 ^ 63 →
      G.run input (fuel + 1) Parser.number pos ctx state =
        .done (.yield (value : Int) (pos + digits.length)) state) ∧
    (2 ^ 63 ≤ value → ∃ longest, Samples.LongestFitting digits longest ∧
      G.run input (fuel + 1) Parser.number pos ctx state =
        .stopped (.overflow (Samples.overflowing (Nat.ofDigitChars 10 longest 0))) state) := by
  intro input digits value
  have hread : input.Reads pos digits (pos + Input.span input.width digits) :=
    Input.reads_of_rest List.takeWhile_append_dropWhile.symm
  have hdigit : ∀ c ∈ digits, c.isDigit = true := fun c hc => Input.isDigit_of_mem_digits hc
  rw [Input.span_digits text hdigit] at hread
  have hlength : digits.length ≤ fuel := by
    have hremaining := hread.remaining_eq
    exact le_trans (by rw [hremaining]; exact Nat.le_add_right _ _) hfuel
  have hword (hne : digits ≠ []) : G.run input (fuel + 1) Parser.number pos ctx state =
      ((fun value => Outcome.yield value (pos + digits.length)) <$>
        Eval.ofExcept (digits.foldlM Parser.appendDigit 0)) state :=
    run_word "number" "digit" hread hne hdigit (Input.isDigit_behind_digits hread) hlength
  refine ⟨fun hnil => ?_, fun hne hvalue => ?_, fun hvalue => ?_⟩
  · have hhere := Input.isDigit_behind_digits hread
    rw [hnil] at hhere
    exact run_word_of_none "number" "digit" hhere
  · rw [hword hne, Samples.foldlM_appendDigit_of_fits hvalue]
    rfl
  · have hne : digits ≠ [] := by
      intro hnil
      have hzero : value = Nat.ofDigitChars 10 [] 0 :=
        congrArg (fun digits => Nat.ofDigitChars 10 digits 0) hnil
      rw [hzero] at hvalue
      exact absurd hvalue (by decide)
    have hempty : Nat.ofDigitChars 10 [] 0 < 2 ^ 63 := by decide
    obtain ⟨longest, hlongest, hfold⟩ := Samples.foldlM_appendDigit_of_overflow hempty hvalue
    have hfold : digits.foldlM Parser.appendDigit 0 =
        .error (.overflow (Samples.overflowing (Nat.ofDigitChars 10 longest 0))) := hfold
    refine ⟨longest, hlongest, ?_⟩
    rw [hword hne, hfold]
    rfl

/-- Zeros in front do not matter, and the number ends before another character. -/
theorem run_number_zeros :
    let G : Grammar (TextSignature Unit Unit) := { define := fun _ => none }
    let state : State (TextSignature Unit Unit) OrderedTable := .new
    G.run (Input.ofText "0042;") 6 Parser.number 0 ∅ state = .done (.yield 42 4) state := by
  intro G state
  have hfuel : (Input.ofText "0042;").remaining 0 ≤ 5 := by decide
  have hdigits : (Input.ofText "0042;").digits 0 = ['0', '0', '4', '2'] := by decide
  have hrun := (run_number G "0042;" hfuel ∅ state).2.1
  rw [hdigits] at hrun
  exact hrun (by decide) (by decide)

end Grammar

end LeftRec
