import LeftRec.Memo.Ordered
import LeftRec.Proofs.Calculation
import LeftRec.Proofs.Turns

/-!
# Indirect recursion — the two rules are parsed completely

Whatever word has a derivation of `s` is parsed, to the text of this derivation, and nothing else is
parsed.  Each rule's entries are derivations of the rule, whichever turn has left them there, and
the outermost turn comes to the end of the word.
-/

namespace LeftRec
namespace Samples

open Grammar (SoundWith)

variable {T : Type → Type} [MemoTable T] {parity : Parity} {keyOf : IndirectRule → Key}
variable {input : Input IndirectSignature.Token}

/-! ## What is found is derived -/

/-- A word has a derivation, and the value is its text. -/
def Derived (rule : IndirectRule) : Meaning IndirectSignature String :=
  fun word _ v => ∃ d : Derivation rule, d.written = word ∧ d.text = v

/-- What the keys of the grammar stand for. -/
def derivedUnder (keyOf : IndirectRule → Key) (_ : IndirectSignature.Kind) (key : Key) :
    Meaning IndirectSignature String :=
  if key = keyOf .t then Derived .t else Derived .s

theorem sound_body {G : Grammar IndirectSignature} {fuel : Nat}
    {invariant : State IndirectSignature T → Prop} {rule : IndirectRule}
    (hpartner : SoundWith G input invariant fuel (.ref (S := IndirectSignature) rule.partner)
      (Derived rule.partner)) :
    SoundWith G input invariant fuel rule.body (Derived rule) := by
  have hsign : SoundWith G input invariant fuel (.text rule.sign) fun word _ v =>
      word = [rule.letter] ∧ v = rule.sign := by
    rw [← rule.toList_sign]
    exact .text rule.sign
  have hboth : SoundWith G input invariant fuel
      ((Parser.ref (S := IndirectSignature) rule.partner).skip (.text rule.sign)) fun word _ v =>
        ∃ inner : Derivation rule.partner, word = inner.written ++ [rule.letter] ∧
          inner.text = v := by
    refine hpartner.zipWith hsign ?_
    rintro _ _ rest v _ ⟨inner, rfl, hv⟩ ⟨rfl, -⟩
    exact ⟨inner, rfl, hv⟩
  have hlonger : SoundWith G input invariant fuel
      (((Parser.ref (S := IndirectSignature) rule.partner).skip (.text rule.sign)).map rule.enclose)
      (Derived rule) := by
    refine hboth.tryMap ?_
    rintro _ rest _ v ⟨inner, rfl, rfl⟩ hv
    exact ⟨.longer inner, rfl, Except.ok.inj hv⟩
  refine hlonger.alt hsign (fun _ _ _ h => h) ?_
  rintro _ rest _ ⟨rfl, rfl⟩
  refine ⟨.letter rule, rfl, ?_⟩
  cases rule <;> rfl

variable [LawfulMemoTable T]

/-- With any fuel, what the rules find and what they leave in the table is derived. -/
theorem sound_rule (hkeys : keyOf .s ≠ keyOf .t) (fuel : Nat) (rule : IndirectRule) :
    SoundWith (T := T) (turning parity keyOf) input (State.Means input (derivedUnder keyOf)) fuel
      (.ref (S := IndirectSignature) rule) (Derived rule) := by
  -- A rule's body refers to its partner with one unit of fuel less.
  induction fuel generalizing rule with
  | zero => exact .zero _ _
  | succ fuel ih =>
      have hmeans : derivedUnder keyOf () (keyOf rule) = Derived rule := by
        cases rule with
        | s => exact if_neg hkeys
        | t => exact if_pos rfl
      have hbody := sound_body (ih rule.partner)
      rw [← hmeans] at hbody ⊢
      exact .ref (IndirectRule.defined parity keyOf rule) hbody

/-- A run over the whole input that succeeds has found the text of a derivation. -/
theorem derived_of_complete (hkeys : keyOf .s ≠ keyOf .t) {fuel : Nat} {ctx : Context}
    {state after : State IndirectSignature T} {s : Success String} (hstate : state.NoEntries)
    (hrun : (turning parity keyOf).run input fuel
      (Parser.ref (S := IndirectSignature) .s).complete 0 ctx state = .done (.success s) after) :
    ∃ d : Derivation .s, d.written = input.tokens ∧ d.text = s.value :=
  (sound_rule hkeys fuel .s).complete hstate.means hrun

/-! ## Whole parses -/

/-- A whole input that has a derivation is read from one end to the other. -/
theorem run_complete_of_derivation (parity : Parity) (hkeys : keyOf .s ≠ keyOf .t)
    (hlength : input.tokens.length < 2 ^ 32 - 2) {d : Derivation .s}
    (hwritten : d.written = input.tokens) {state : State IndirectSignature T}
    (hstate : state.NoEntries) :
    ∃ s after, (turning parity keyOf).run input Grammar.ampleFuel
      (Parser.ref (S := IndirectSignature) .s).complete 0 ∅ state = .done (.success s) after := by
  have hstart : input.rest (Input.span input.width []) = input.tokens := Input.rest_of_append rfl
  have hread : input.Reads 0 d.written input.extent := by
    rw [hwritten, ← hstart]
    exact Input.reads_rest Input.boundary_zero
  have hends : input.startsWith input.extent (IndirectRule.sign .t).toList = false := by
    rw [IndirectRule.toList_sign]
    refine Input.startsWith_of_head ?_
    rw [Input.rest_extent]
    exact nofun
  obtain ⟨-, hreaches⟩ := d.reaches_outermost (T := T) hkeys hlength hread hends
  have hremaining := input.remaining_le_length 0
  obtain ⟨fuel, hample⟩ : ∃ n, Grammar.ampleFuel = n + 1 := ⟨Grammar.ampleFuel - 1, rfl⟩
  have hfuel : 2 * input.remaining 0 + 3 + 3 ≤ fuel + 1 := by
    rw [← hample, Grammar.ampleFuel]
    omega
  obtain ⟨next, ⟨v, hyields⟩, -⟩ := hreaches (fuel + 1) ∅ state hfuel .outermost
    fun other => hstate () (keyOf other) 0
  obtain ⟨s, after, hrun, -⟩ := hyields.complete
  rw [hample]
  exact ⟨s, after, hrun⟩

omit [MemoTable T] [LawfulMemoTable T] in
/-- The grammar is built with two distinct keys, and nothing but the supply of keys changes. -/
theorem building_indirect {β : Type} (parity : Parity)
    (next : Language IndirectSignature String → Eval (State IndirectSignature T) β)
    (state : State IndirectSignature T) :
    ∃ keyOf : IndirectRule → Key, keyOf .s ≠ keyOf .t ∧ ∃ workshop,
      Eval.building (indirect parity) next state =
        next ⟨turning parity keyOf, .ref (S := IndirectSignature) .s⟩ { state with workshop } := by
  let n := state.workshop.supply.key
  let keyOf : IndirectRule → Key
    | .t => .id n
    | .s => .id (n + 1)
  refine ⟨keyOf, fun heq => ?_, _, rfl⟩
  have hsame := Key.id.inj heq
  omega

/-- The grammar of the two rules is parsed completely: a whole text is parsed exactly if it is not
empty, its letters `c` and `d` take turns and it ends with `c`.  Then it has one derivation, and the
value is its text. -/
theorem indirect_parses_alternations (parity : Parity) (text : String)
    (hlength : text.length < 2 ^ 32 - 2) (state : State IndirectSignature T) :
    ((∃ s after, Eval.building (indirect parity) (fun L => L.parse (Input.ofText text) true) state =
        .done (.success s) after) ↔ Alternates .s text.toList) ∧
    ∀ s after, Eval.building (indirect parity) (fun L => L.parse (Input.ofText text) true) state =
        .done (.success s) after →
      ∃ d : Derivation .s, d.written = text.toList ∧ s.value = d.text ∧
        ∀ other : Derivation .s, other.written = text.toList → other = d := by
  obtain ⟨keyOf, hkeys, workshop, hbuilding⟩ := building_indirect parity
    (fun L => L.parse (Input.ofText text) true) state
  have htokens : (Input.ofText text).tokens.length < 2 ^ 32 - 2 := by
    rw [← text.length_toList] at hlength
    exact hlength
  have hderived (s : Success String) (after : State IndirectSignature T)
      (hparse : Eval.building (indirect parity) (fun L => L.parse (Input.ofText text) true) state =
        .done (.success s) after) :
      ∃ d : Derivation .s, d.written = text.toList ∧ d.text = s.value := by
    rw [hbuilding] at hparse
    obtain ⟨found, last, hrun, hvalue⟩ := Grammar.parse_eq_success.1 ⟨s, after, hparse, rfl⟩
    obtain ⟨d, hwritten, hd⟩ := derived_of_complete hkeys (State.noEntries_clear _) hrun
    exact ⟨d, hwritten, hd.trans hvalue⟩
  refine ⟨⟨?_, fun halternates => ?_⟩, fun s after hparse => ?_⟩
  · rintro ⟨s, after, hparse⟩
    obtain ⟨d, hwritten, -⟩ := hderived s after hparse
    exact exists_derivation_iff.1 ⟨d, hwritten⟩
  · obtain ⟨d, hwritten⟩ := exists_derivation_iff.2 halternates
    obtain ⟨s, after, hrun⟩ := run_complete_of_derivation parity hkeys htokens hwritten
      (State.noEntries_clear { state with workshop })
    obtain ⟨found, last, hparse, -⟩ := Grammar.parse_eq_success.2 ⟨s, after, hrun, rfl⟩
    rw [hbuilding]
    exact ⟨found, last, hparse⟩
  · obtain ⟨d, hwritten, hd⟩ := hderived s after hparse
    exact ⟨d, hwritten, hd.symm, fun other hother =>
      Derivation.eq_of_written_eq (hother.trans hwritten.symm)⟩

/-- A word that begins with `d` is found from the inside out. -/
theorem indirect_parses_alternations_dcdc :
    "dcdc".length < 2 ^ 32 - 2 ∧
      ∃ s after, Eval.building (indirect .odd) (fun L => L.parse (Input.ofText "dcdc") true)
          (.new : State IndirectSignature OrderedTable) = .done (.success s) after ∧
        s.value = "[([dc]d)c]" := by
  have hlength : "dcdc".length < 2 ^ 32 - 2 := by decide
  obtain ⟨hparsed, hvalue⟩ := indirect_parses_alternations .odd "dcdc" hlength
    (.new : State IndirectSignature OrderedTable)
  let whole : Derivation .s := .longer (.longer (.longer (.letter .t)))
  have hwritten : whole.written = "dcdc".toList := by decide
  obtain ⟨s, after, hparse⟩ := hparsed.2 (hwritten ▸ whole.alternates)
  obtain ⟨d, -, htext, hunique⟩ := hvalue s after hparse
  obtain rfl : whole = d := hunique whole hwritten
  exact ⟨hlength, s, after, hparse, htext⟩

end Samples
end LeftRec
