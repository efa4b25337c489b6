import LeftRec.Proofs.Answers
import LeftRec.Samples.Text

/-!
# Separation — lists of words with commas between them

Words joined by commas are read back as they were, also with one more comma behind the last.  Each
word ends where a comma or the end of the text stands, since neither is a letter.
-/

namespace LeftRec

/-! ## The texts -/

/-- One or more ASCII letters. -/
def Lettered (word : String) : Prop :=
  word.toList ≠ [] ∧ ∀ c ∈ word.toList, c.isAlpha = true

/-- Words with a comma between them, and one more behind the last if it trails. -/
def commaList (words : List String) (trailing : Bool) : String :=
  ",".intercalate words ++ if trailing then "," else ""

theorem toList_commaList (words : List String) (trailing : Bool) :
    (commaList words trailing).toList =
      ",".toList.intercalate (words.map String.toList) ++ if trailing then ",".toList else [] := by
  rw [commaList, String.toList_append, String.toList_intercalate]
  cases trailing <;> rfl

/-- A comma or the end of the text stands at a position. -/
def Separated (input : Input Char) (pos : Nat) : Prop :=
  input.rest pos = [] ∨ ∃ stop, input.Reads pos ",".toList stop

theorem Separated.isAlpha_eq_false {input : Input Char} {pos : Nat} (h : Separated input pos) :
    ∀ c after, input.next? pos = some (c, after) → c.isAlpha = false := by
  intro c after hnext
  rcases h with hrest | ⟨stop, hcomma⟩
  · rw [Input.next?, hrest] at hnext
    cases hnext
  · obtain ⟨rfl, -⟩ := Prod.mk.inj (Option.some.inj (hcomma.next?.symm.trans hnext))
    rfl

namespace Grammar

variable {ρ ν : Type} {T : Type → Type} [MemoTable T] {G : Grammar (TextSignature ρ ν)}
variable {input : Input (TextSignature ρ ν).Token} {fuel pos middle stop : Nat} {ctx : Context}
variable {state : State (TextSignature ρ ν) T} {word : String} {words : List String}

/-! ## One word -/

theorem gives_identifier (hword : Lettered word) (hread : input.Reads pos word.toList stop)
    (hends : Separated input stop) (hfuel : stop ≤ fuel) :
    Gives T G input (fuel + 1) Parser.identifier pos word stop := by
  intro ctx state
  have hlength := hread.add_length_le
  have hrun : G.run input (fuel + 1) Parser.identifier pos ctx state =
      .done (.yield (String.ofList word.toList) stop) state :=
    run_word "identifier" "letter" hread hword.1 hword.2 hends.isAlpha_eq_false (by omega)
  rw [String.ofList_toList] at hrun
  exact ⟨∅, hrun, fun _ hkey => nomatch hkey⟩

theorem run_identifier_of_separated (hends : Separated input pos) :
    G.run input (fuel + 1) Parser.identifier pos ctx state =
      .done (.fail (.expecting "identifier") pos) state :=
  run_word_of_none "identifier" "letter" hends.isAlpha_eq_false

theorem rejects_identifier (hends : Separated input pos) :
    Rejects T G input (fuel + 1) Parser.identifier pos := fun _ _ =>
  ⟨_, run_identifier_of_separated hends, rfl, fun _ hkey => nomatch hkey⟩

/-! ## All words -/

theorem gives_comma (hread : input.Reads pos ",".toList stop) :
    Gives T G input (fuel + 1) (Parser.text ",") pos (String.ofList ",".toList) stop := fun _ _ =>
  yields_text hread (by decide)

/-- Words and commas up to the end of the text are a series of words. -/
theorem series_words {trailing : Bool} (hwords : ∀ word ∈ words, Lettered word)
    (htrailing : trailing = true → words ≠ [])
    (hread : input.Reads pos (commaList words trailing).toList stop)
    (hend : input.rest stop = []) (hfuel : stop ≤ fuel) :
    Series T G input (fuel + 1) (Parser.identifier.separated (.text ",")) pos words stop := by
  rw [toList_commaList] at hread
  obtain ⟨middle, hlist, htail⟩ := hread.split
  have hmiddle : Separated input middle := by
    cases trailing with
    | true => exact .inr ⟨stop, htail⟩
    | false =>
        obtain rfl : stop = middle := htail.stop_eq
        exact .inl hend
  have hseries : Series T G input (fuel + 1) (Parser.identifier.separated (.text ",")) pos
      (words.map id) stop := series_of_intercalate hlist
    (fun word hword => (hwords word hword).1)
    (fun word hword i j _ hj hitem hbehind => gives_identifier (hwords word hword) hitem ?_
      (hj.trans (htail.le.trans hfuel)))
    (fun _ _ i j _ hcomma _ => ⟨_, gives_comma hcomma⟩) ?_ (rejects_identifier (.inl hend))
  · rwa [List.map_id] at hseries
  · rcases hbehind with rfl | hcomma
    · exact hmiddle
    · exact .inr hcomma
  · cases trailing with
    | true => exact .inr ⟨htrailing rfl, htail.le, _, gives_comma htail⟩
    | false =>
        obtain rfl : stop = middle := htail.stop_eq
        refine .inl ⟨rfl, fun ctx state => refuses_text ?_⟩
        have hhead : (input.rest stop).head? ≠ some ',' := by
          rw [hend]
          exact Option.some_ne_none ',' |>.symm
        exact Input.startsWith_of_head hhead

/-- A list of words is read back from its text, whether or not a comma stands behind the last word.
At least one word is found if there is one; where there is none, one was expected. -/
theorem parse_commaList (G : Grammar (TextSignature ρ ν)) {words : List String} {trailing : Bool}
    {fuel : Nat} (hwords : ∀ word ∈ words, Lettered word)
    (htrailing : trailing = true → words ≠ [])
    (hfuel : (Input.ofText (commaList words trailing)).extent + 1 < fuel)
    (state : State (TextSignature ρ ν) T) :
    let input := Input.ofText (commaList words trailing)
    let list := Parser.identifier.sepBy (.text ",")
    let list1 := Parser.identifier.sepBy1 (.text ",")
    (∃ after, G.parse fuel input true list state = .done (.yield words input.extent) after) ∧
    (words ≠ [] →
      ∃ after, G.parse fuel input true list1 state = .done (.yield words input.extent) after) ∧
    (words = [] →
      ∃ after, G.parse fuel input true list1 state =
        .done (.fail (.expecting "identifier") 0) after) := by
  intro input list list1
  obtain ⟨fuel, rfl⟩ : ∃ n, fuel = n + 1 := ⟨fuel - 1, by omega⟩
  have hread : input.Reads 0 (commaList words trailing).toList input.extent :=
    Input.reads_tokens input
  have henough : input.extent < fuel := Nat.lt_of_succ_lt_succ hfuel
  have hseries : Series T G input (fuel + 1) (Parser.identifier.separated (.text ",")) 0 words
      input.extent :=
    series_words hwords htrailing hread Input.rest_extent henough.le
  have hlength := hseries.add_length_le
  refine ⟨(hseries.many (by omega)).parse state, fun hne => ?_, ?_⟩
  · exact (hseries.many1 hne (by omega)).parse state
  · rintro rfl
    have hempty : (commaList [] trailing).toList = [] := by
      cases trailing with
      | true => exact absurd rfl (htrailing rfl)
      | false => rfl
    have hends : Separated input 0 := by
      refine .inl ?_
      rw [hread.rest_eq, hempty, Input.rest_extent]
      rfl
    have hfirst : G.run input (fuel + 1) Parser.identifier 0 ∅ state.clear =
        .done (.fail (.expecting "identifier") 0) state.clear := run_identifier_of_separated hends
    have hseparated := run_zipWith_of_failure (fun a _ => a)
      (((Parser.text ",").yielding ()).alt .empty) hfirst
    have hmany1 := run_zipWith_of_failure (· :: ·)
      (Parser.identifier.separated (.text ",")).many hseparated
    exact ⟨_, parse_eq_done.2 ⟨_, run_zipWith_of_failure (fun a _ => a) .eof hmany1, rfl⟩⟩

/-- Two words with a comma behind the second. -/
theorem parse_commaList_two :
    let G : Grammar (TextSignature Unit Unit) := { define := fun _ => none }
    let state : State (TextSignature Unit Unit) OrderedTable := .new
    ∃ after, G.parse 7 (Input.ofText "ab,c,") true (Parser.identifier.sepBy1 (.text ",")) state =
      .done (.yield ["ab", "c"] 5) after := by
  intro G state
  have hwords : ∀ word ∈ ["ab", "c"], Lettered word := by
    simp [Lettered]
  have hne : ["ab", "c"] ≠ [] := List.cons_ne_nil _ _
  have htrailing : true = true → ["ab", "c"] ≠ [] := fun _ => hne
  exact (parse_commaList G hwords htrailing (by decide) state).2.1 hne

end Grammar

end LeftRec
