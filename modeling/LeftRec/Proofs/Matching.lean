import LeftRec.Proofs.Anchoring
import LeftRec.Proofs.Rendering

/-!
# Matching — the patterns of JSON

What the expressions of the three patterns of the JSON grammar match of the texts that are rendered.
Each has one match there or none, so it does not matter which match an engine prefers.
-/

namespace LeftRec
namespace Regex

/-! ## One match or none -/

section Found

variable {E : Type} [Engine E] [LawfulEngine E] {source : String} {r : Node} {e : E}
variable {text : List Char} {captures : List (Option (Nat × Nat))}

/-- The only match is found. -/
theorem captures_eq_some (hparse : parse? source = some r)
    (hcompile : Engine.compile? source = some e)
    (h : ∀ found, r.Finds text found ↔ found = captures) :
    Engine.captures e text = some captures := by
  have hsome := LawfulEngine.isSome_captures hparse hcompile ((h captures).2 rfl)
  obtain ⟨found, hfound⟩ := Option.isSome_iff_exists.1 hsome
  obtain rfl := (h found).1 (LawfulEngine.finds_of_captures hparse hcompile hfound)
  exact hfound

theorem captures_eq_none (hparse : parse? source = some r)
    (hcompile : Engine.compile? source = some e) (h : ∀ found, ¬r.Finds text found) :
    Engine.captures e text = none :=
  Option.eq_none_iff_forall_ne_some.2 fun found hfound =>
    h found (LawfulEngine.finds_of_captures hparse hcompile hfound)

end Found

/-! ## What is matched next -/

section Next

variable {text rest : List Char} {a b c : Spot} {s : CharSet} {x : Char} {r : Node} {greedy : Bool}

theorem getElem?_place (h : text.drop a.place = x :: rest) : text[a.place]? = some x := by
  rw [← List.head?_drop, h]
  rfl

/-- A set matches the next character. -/
theorem set_matches_iff (h : text.drop a.place = x :: rest) :
    (Node.set s).Matches text a b ↔ s.contains x ∧ b = a.next := by
  have hnext := getElem?_place h
  refine and_congr_left' ⟨?_, fun hx => ⟨x, hnext, hx⟩⟩
  rintro ⟨y, hy, hs⟩
  obtain rfl := Option.some.inj (hnext.symm.trans hy)
  exact hs

theorem not_set_matches (h : ∀ y, text[a.place]? = some y → s.contains y = false) :
    ¬(Node.set s).Matches text a b := by
  rintro ⟨⟨y, hy, hs⟩, -⟩
  exact Bool.false_ne_true ((h y hy).symm.trans hs)

theorem drop_next (h : text.drop a.place = x :: rest) : text.drop a.next.place = rest := by
  show text.drop (a.place + 1) = rest
  rw [← List.tail_drop, h]
  rfl

/-- A repetition goes on behind one more match or ends at once. -/
theorem star_matches_iff :
    (Node.rep 0 none greedy r).Matches text a c ↔
      (∃ b, r.Matches text a b ∧ (Node.rep 0 none greedy r).Matches text b c) ∨ a = c := by
  have hbetween (count : Nat) : IsBetween 0 none count := ⟨Nat.zero_le count, fun _ h => nomatch h⟩
  simp only [Node.Matches]
  rw [exists_iterated_cases]
  simp only [hbetween, true_and]

/-- What is not matched once is not matched more than once. -/
theorem eq_of_rep_matches {least : Nat} {most : Option Nat} (hnot : ∀ b, ¬r.Matches text a b)
    (h : (Node.rep least most greedy r).Matches text a c) : a = c := by
  obtain ⟨count, -, hcount⟩ := h
  cases count with
  | zero => exact hcount
  | succ count =>
      obtain ⟨b, hab, -⟩ := hcount
      exact absurd hab (hnot b)

end Next

/-! ## Blanks -/

/-- The expression of `\\s*`. -/
def blanksNode : Node :=
  .seq (.look .textStart true) (.rep 0 none true (.set .blank))

/-- Where no blank stands the empty text is matched. -/
theorem finds_blanks_iff {text : List Char}
    (h : ∀ c, text.head? = some c → CharSet.blank.contains c = false)
    (found : List (Option (Nat × Nat))) : blanksNode.Finds text found ↔ found = [some (0, 0)] := by
  have hnot (b : Spot) : ¬(Node.set .blank).Matches text ⟨0, [some 0, none]⟩ b :=
    not_set_matches fun c hc => h c (List.head?_eq_getElem?.trans hc)
  rw [blanksNode, finds_anchored_iff]
  constructor
  · rintro ⟨b, hb, hfound⟩
    obtain rfl := eq_of_rep_matches hnot hb
    exact hfound
  · rintro rfl
    exact ⟨⟨0, [some 0, none]⟩, star_matches_iff.2 (.inr rfl), rfl⟩

/-! ## Quoted strings -/

/-- All characters but quotes and backslashes. -/
def unquoted : CharSet :=
  (CharSet.ranges [(0, 0x10ffff)]).inter
    ((CharSet.empty.union (.single '"')).union (.single '\\')).compl

/-- All characters but the end of a line. -/
def dot : CharSet :=
  (CharSet.ranges [(0, 0x10ffff)]).inter (CharSet.single '\n').compl

/-- A character that stands for itself, or one with a backslash before it. -/
def quotedUnit : Node :=
  .alt (.set unquoted) (.seq (.set (.single '\\')) (.set dot))

def quotedUnits : Node :=
  .rep 0 none true quotedUnit

/-- The expression of `"((?:[^"\\\\]|\\\\.)*)"`. -/
def quotedNode : Node :=
  .seq (.look .textStart true)
    (.seq (.set (.single '"')) (.seq (.group 1 quotedUnits) (.set (.single '"'))))

theorem contains_single (c other : Char) :
    (CharSet.single c).contains other = decide (other = c) := by
  rw [Bool.eq_iff_iff, decide_eq_true_eq]
  have hsame : other.toNat = c.toNat ↔ other = c := Char.toNat_inj
  rw [← hsame]
  simp only [CharSet.single, CharSet.contains, CharSet.has, List.any_cons, List.any_nil,
    Bool.or_false, Bool.and_eq_true, decide_eq_true_eq]
  omega

/-- Every character is in the range of all code points. -/
theorem contains_all (c : Char) : (CharSet.ranges [(0, 0x10ffff)]).contains c = true := by
  have hvalid : c.toNat ≤ 0x10ffff := by
    rcases c.valid with h | ⟨-, h⟩
    · exact Nat.le_of_lt (Nat.lt_trans h (by decide))
    · exact Nat.le_of_lt_succ h
  simp only [CharSet.contains, CharSet.has, List.any_cons, List.any_nil, Bool.or_false,
    Bool.and_eq_true, decide_eq_true_eq]
  omega

theorem contains_unquoted (c : Char) : unquoted.contains c = !decide (c = '"' ∨ c = '\\') := by
  have hall : unquoted.contains c = ((CharSet.ranges [(0, 0x10ffff)]).contains c &&
      !((CharSet.single '"').contains c || (CharSet.single '\\').contains c)) := rfl
  rw [hall, contains_all, contains_single, contains_single, Bool.true_and, Bool.decide_or]

theorem contains_dot (c : Char) : dot.contains c = !decide (c = '\n') := by
  have hall : dot.contains c = ((CharSet.ranges [(0, 0x10ffff)]).contains c &&
      !(CharSet.single '\n').contains c) := rfl
  rw [hall, contains_all, contains_single, Bool.true_and]

theorem single_matches_iff {text : List Char} {a b : Spot} {x : Char} :
    (Node.set (.single x)).Matches text a b ↔ text[a.place]? = some x ∧ b = a.next := by
  simp [Node.Matches, contains_single]

section Quoted

variable {text rest : List Char} {a b : Spot} {x : Char}

theorem quotedUnit_matches_iff :
    quotedUnit.Matches text a b ↔ (Node.set unquoted).Matches text a b ∨
      ∃ c, (Node.set (.single '\\')).Matches text a c ∧ (Node.set dot).Matches text c b :=
  Iff.rfl

theorem quotedUnit_matches_plain (h : text.drop a.place = x :: rest)
    (hx : ¬(x = '"' ∨ x = '\\')) : quotedUnit.Matches text a b ↔ b = a.next := by
  rw [not_or] at hx
  simp [quotedUnit_matches_iff, set_matches_iff h, contains_unquoted, contains_single, hx]

theorem quotedUnit_matches_escaped (h : text.drop a.place = '\\' :: x :: rest) (hx : x ≠ '\n') :
    quotedUnit.Matches text a b ↔ b = a.next.next := by
  have hnext := drop_next h
  simp [quotedUnit_matches_iff, set_matches_iff h, set_matches_iff hnext, contains_unquoted,
    contains_single, contains_dot, hx]

theorem not_quotedUnit_matches_quote (h : text.drop a.place = '"' :: rest) :
    ¬quotedUnit.Matches text a b := by
  simp [quotedUnit_matches_iff, set_matches_iff h, contains_unquoted, contains_single]

/-- Where a character stands that is matched in one way, the repetition goes on behind it. -/
theorem quotedUnits_matches_step {a' : Spot} (hunit : ∀ c, quotedUnit.Matches text a c ↔ c = a')
    (hne : text[a.place]? ≠ some '"') :
    quotedUnits.Matches text a b ∧ text[b.place]? = some '"' ↔
      quotedUnits.Matches text a' b ∧ text[b.place]? = some '"' := by
  refine and_congr_left fun hquote => star_matches_iff.trans ⟨?_, fun h => ?_⟩
  · rintro (⟨c, hc, h⟩ | rfl)
    · exact (hunit c).1 hc ▸ h
    · exact absurd hquote hne
  · exact .inl ⟨a', (hunit a').2 rfl, h⟩

/-- From within a quoted string its closing quote is reached in one way. -/
theorem quotedUnits_matches_iff (cs tail : List Char)
    (h : text.drop a.place = Json.escape cs ++ '"' :: tail) :
    quotedUnits.Matches text a b ∧ text[b.place]? = some '"' ↔
      b = { a with place := (Json.escape cs).length + a.place } := by
  -- A character with a backslash before it takes two places, any other takes one, and neither of
  -- them begins with the closing quote.
  induction cs generalizing a with
  | nil =>
      rw [Json.escape, List.length_nil, Nat.zero_add]
      constructor
      · rintro ⟨hunits, -⟩
        exact (eq_of_rep_matches (fun c => not_quotedUnit_matches_quote h) hunits).symm
      · rintro rfl
        exact ⟨star_matches_iff.2 (.inr rfl), getElem?_place h⟩
  | cons x cs ih =>
      rw [Json.escape] at h ⊢
      split at h
      next hx =>
        have hline : x ≠ '\n' := by
          rintro rfl
          exact absurd hx (by decide)
        have hne : text[a.place]? ≠ some '"' := by
          rw [getElem?_place h]
          decide
        rw [quotedUnits_matches_step (fun c => quotedUnit_matches_escaped h hline) hne,
          ih (drop_next (drop_next h)), if_pos hx, List.length_cons, List.length_cons,
          Nat.succ_add_eq_add_succ, Nat.succ_add_eq_add_succ]
        rfl
      next hx =>
        have hne : text[a.place]? ≠ some '"' := by
          rw [getElem?_place h]
          exact fun heq => hx (.inl (Option.some.inj heq))
        rw [quotedUnits_matches_step (fun c => quotedUnit_matches_plain h hx) hne,
          ih (drop_next h), if_neg hx, List.length_cons, Nat.succ_add_eq_add_succ]
        rfl

/-- A quoted string is matched whole, and what stands between the quotes is its group. -/
theorem finds_quoted_iff (cs tail : List Char) (found : List (Option (Nat × Nat))) :
    quotedNode.Finds ('"' :: (Json.escape cs ++ '"' :: tail)) found ↔
      found = [some (0, (Json.escape cs).length + 2), some (1, (Json.escape cs).length + 1)] := by
  generalize htext : '"' :: (Json.escape cs ++ '"' :: tail) = text
  let start : Spot := ⟨0, [some 0, none, none, none]⟩
  let inside : Spot := start.next.save 2
  let stop : Spot := { inside with place := (Json.escape cs).length + 1 }
  have hstart : text.drop start.place = '"' :: (Json.escape cs ++ '"' :: tail) := htext.symm
  have hinside : text.drop inside.place = Json.escape cs ++ '"' :: tail := drop_next hstart
  have hunits {b : Spot} : quotedUnits.Matches text inside b ∧ text[b.place]? = some '"' ↔
      b = stop := quotedUnits_matches_iff cs tail hinside
  rw [quotedNode, finds_anchored_iff]
  -- What stands between the quotes is known to end where a quote follows, which is the closing one.
  constructor
  · rintro ⟨b, ⟨_, hopen, _, ⟨c, hc, rfl⟩, hclose⟩, rfl⟩
    obtain ⟨-, rfl⟩ := single_matches_iff.1 hopen
    obtain ⟨hquote, rfl⟩ := single_matches_iff.1 hclose
    obtain rfl := hunits.1 ⟨hc, hquote⟩
    rfl
  · rintro rfl
    obtain ⟨hc, hquote⟩ := hunits.2 rfl
    refine ⟨(stop.save 3).next, ⟨start.next, ?_, stop.save 3, ⟨stop, hc, rfl⟩, ?_⟩, rfl⟩
    · exact single_matches_iff.2 ⟨getElem?_place hstart, rfl⟩
    · exact single_matches_iff.2 ⟨hquote, rfl⟩

/-- Nothing else begins a quoted string. -/
theorem not_finds_quoted (h : text.head? ≠ some '"') (found : List (Option (Nat × Nat))) :
    ¬quotedNode.Finds text found := by
  rw [quotedNode, finds_anchored_iff]
  rintro ⟨b, ⟨c, hopen, -⟩, -⟩
  have hquote := (single_matches_iff.1 hopen).1
  exact h (List.head?_eq_getElem?.trans hquote)

end Quoted

/-! ## Numerals -/

/-- A digit. -/
def oneDigit : CharSet :=
  CharSet.empty.union .asciiDigit

/-- A digit that may begin a number of several. -/
def leadingDigit : CharSet :=
  CharSet.empty.union (.ranges [(0x31, 0x39)])

/-- Digits before a point: a zero alone, or others without a zero before them. -/
def wholeNode : Node :=
  .alt (.set (.single '0')) (.seq (.set leadingDigit) (.rep 0 none true (.set oneDigit)))

/-- A point and the digits behind it. -/
def fractionNode : Node :=
  .seq (.set (.single '.')) (.rep 1 none true (.set oneDigit))

/-- The letter of an exponent, perhaps a sign, and digits. -/
def exponentNode : Node :=
  .seq (.set ((CharSet.empty.union (.single 'e')).union (.single 'E')))
    (.seq (.rep 0 (some 1) true (.set ((CharSet.empty.union (.single '+')).union (.single '-'))))
      (.rep 1 none true (.set oneDigit)))

/-- The expression of numbers. -/
def numeralNode : Node :=
  .seq (.look .textStart true)
    (.seq (.rep 0 (some 1) true (.set (.single '-')))
      (.seq wholeNode (.seq (.rep 0 (some 1) true fractionNode)
        (.rep 0 (some 1) true exponentNode))))

theorem contains_leadingDigit {c : Char} (h : c.isDigit = false) :
    leadingDigit.contains c = false := by
  have hrange : leadingDigit.contains c = (decide (0x31 ≤ c.toNat) && decide (c.toNat ≤ 0x39)) := by
    simp [leadingDigit, CharSet.empty, CharSet.contains, CharSet.has]
  rw [hrange]
  simp only [Char.isDigit, Bool.and_eq_false_iff, decide_eq_false_iff_not, ge_iff_le,
    UInt32.le_iff_toNat_le] at h ⊢
  have hzero : '0'.val.toNat = 0x30 := rfl
  have hnine : '9'.val.toNat = 0x39 := rfl
  have hsame : c.toNat = c.val.toNat := rfl
  omega

/-- Nothing but a sign or a digit begins a number. -/
theorem not_finds_numeral {text : List Char}
    (h : ∀ c, text.head? = some c → c ≠ '-' ∧ c.isDigit = false)
    (found : List (Option (Nat × Nat))) : ¬numeralNode.Finds text found := by
  rw [numeralNode, finds_anchored_iff]
  rintro ⟨b, ⟨c, hsign, d, hwhole, -⟩, -⟩
  have hhead {x : Char} (hx : text[0]? = some x) : x ≠ '-' ∧ x.isDigit = false :=
    h x (List.head?_eq_getElem?.trans hx)
  obtain rfl := eq_of_rep_matches (fun a hminus =>
    (hhead (single_matches_iff.1 hminus).1).1 rfl) hsign
  rcases hwhole with hzero | ⟨e, hleading, -⟩
  · exact absurd (hhead (single_matches_iff.1 hzero).1).2 (by decide)
  · exact not_set_matches (fun x hx => contains_leadingDigit (hhead hx).2) hleading

end Regex
end LeftRec
