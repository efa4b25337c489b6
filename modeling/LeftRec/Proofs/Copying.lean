import Mathlib.Logic.Equiv.Basic
import LeftRec.Memo.Hashed
import LeftRec.Memo.Ordered
import LeftRec.Proofs.Sufficiency

/-!
# Copying — copies that share a name act as one rule

The rule of differences may refer to itself by a cell, for which a further copy of the rule is built
when it is first run.  Every copy has a cell of its own, so a recursion builds one parser on each
level.  All copies have one name for a key, and nothing but the key tells a memoized rule in the
table and in contexts.  So the copies do just what one rule does that is declared under an id.
-/

namespace LeftRec
namespace Samples

variable {T T' : Type → Type} [MemoTable T] [MemoTable T']

/-! ## Copies -/

/-- The name that the copies share. -/
def copyName : Key :=
  .name "subtraction_by_name"

/-- A reference to the rule. -/
def ruleCall : Parser IntRule Int :=
  .ref (S := IntRule) ()

theorem bare_ruleCall : ruleCall.All Parser.Bare :=
  Parser.bare_ref _

/-- The copy of the rule that refers to a further copy by a cell. -/
def copyOf (cell : Nat) : Parser IntRule Int :=
  .memo (S := IntRule) () .even copyName (differences (.delay (S := IntRule) cell ()))

/-- The rules of the copies: none is defined, and every cell gets a copy. -/
def copying : Grammar IntRule where
  define _ := none
  copy _ := subtractionCopy

omit [MemoTable T] in
/-- Whatever a cell was filled from, it gets a copy, and the table stays as it is. -/
theorem fill_copying (cell : Nat) (state : State IntRule T) :
    ∃ further next, copying.fill () cell state = (.ok (copyOf further), next) ∧
      next.memo = state.memo := by
  unfold Grammar.fill
  cases state.cells.lookup cell with
  | some supply => exact ⟨_, _, rfl, rfl⟩
  | none => exact ⟨_, _, rfl, rfl⟩

omit [MemoTable T] in
theorem building_subtraction {β : Type} (parity : Parity)
    (next : Language IntRule Int → Eval (State IntRule T) β) (state : State IntRule T) :
    ∃ workshop, Eval.building (subtraction parity) next state =
      next ⟨subtractionGrammar parity (.id state.workshop.supply.key), ruleCall⟩
        { state with workshop } :=
  ⟨_, rfl⟩

omit [MemoTable T] in
theorem building_subtractionByName {β : Type}
    (next : Language IntRule Int → Eval (State IntRule T) β) (state : State IntRule T) :
    ∃ cell workshop, Eval.building subtractionByName next state =
      next ⟨copying, copyOf cell⟩ { state with workshop } :=
  ⟨_, _, rfl⟩

/-! ## Copies and the rule, level by level -/

variable [LawfulMemoTable T] [LawfulMemoTable T'] {r : Key → Key}

variable (T T') in
/-- Two runs over one input with the same table but for keys, whatever rules call. -/
def rekeying (hr : Function.Injective r) (input : Input IntRule.Token) :
    Translation (S := IntRule) { define := fun _ => none } { define := fun _ => none } input input
      T T' :=
  .redefining hr (fun _ => rfl) input

variable {hr : Function.Injective r} {input : Input IntRule.Token}

/-- The bodies of a copy and of the rule do the same, if the further copy and the rule do. -/
theorem translates_differences {rounds cell : Nat} {call : Caller IntRule T}
    {call' : Caller IntRule T'}
    (h : Run.Translates (rekeying T T' hr input) (call () (some cell)) (call' () none)) :
    Run.Translates (rekeying T T' hr input)
      ((differences (.delay (S := IntRule) cell ())).eval input rounds call)
      ((differences (.ref (S := IntRule) ())).eval input rounds call') := by
  -- The copy is read as the body of the rule whose calls go to the further copy.
  let further : Caller IntRule T := fun rule _ => call rule (some cell)
  let body : Parser IntRule Int := differences (.ref (S := IntRule) ())
  have hbare {β : Type} {q : Parser IntRule β}
      (hq : Grammar.Uses { define := fun _ => none } (fun _ _ => False) body q) :
      q.All Parser.Bare := by
    induction hq with
    | itself => exact bare_differences (Parser.bare_ref _)
    | part _ hpart ih => exact ih.part hpart
    | rule _ hdefine _ => cases hdefine
    | copy _ hbuilt _ _ => exact hbuilt.elim
  suffices hsame : Run.Translates (rekeying T T' hr input) (body.eval input rounds further)
      ((body.rename r).eval input rounds call') from hsame
  refine Parser.translates_eval (C := rekeying T T' hr input) (fun β q hq => ?_) (fun _ _ => h)
    (fun cell rule hq => (hbare hq).1.2.elim) .itself
  obtain ⟨⟨hoffered, hearly⟩, -⟩ := (hbare hq).holds
  cases q with
  | custom | count => exact hoffered.elim
  | delay => exact hearly.elim
  | unit | fail | literal | token | find | all | eof | scan | tryMap | zipWith | bind | alt
  | label | commit | look | row | many | memo | ref => trivial

/-- A copy does what the rule does, on every level of the recursion. -/
theorem translates_copy (fuel cell : Nat) :
    Run.Translates (rekeying T T' hr input)
      (copying.run input fuel (copyOf cell))
      ((subtractionGrammar .even (r copyName)).run input fuel
        (subtractionRule .even (r copyName))) := by
  induction fuel generalizing cell with
  | zero => exact fun _ _ _ _ => Eval.rel_exhausted
  | succ fuel ih =>
      have hcall : Run.Translates (rekeying T T' hr input)
          (copying.call input fuel () (some cell))
          ((subtractionGrammar .even (r copyName)).call input fuel () none) := by
        intro i j ctx hplace state state' hs
        -- The cell gets a further copy, and then both run a memoized parser.
        obtain ⟨further, next, hfill, hmemo⟩ := fill_copying cell state
        have hnext : (rekeying T T' hr input).states next state' := by
          show MemoTable.Renamed r next.memo state'.memo
          rw [hmemo]
          exact hs
        simp only [Grammar.call, hfill]
        exact ih further ctx hplace hnext
      exact Run.Translates.memo () .even trivial (translates_differences hcall)

/-! ## Parses -/

/-- A parse by the first copy comes to what a parse by the rule comes to. -/
theorem parse_copyOf (hr : Function.Injective r) (hlength : input.tokens.length < 2 ^ 32 - 2)
    (cell : Nat) (consumeAll : Bool) (state : State IntRule T) (state' : State IntRule T') :
    (copying.parse Grammar.ampleFuel input consumeAll (copyOf cell) state).Rel
      (fun o o' => o' = o.rename r) (fun next next' => MemoTable.Renamed r next.memo next'.memo)
      ((subtractionGrammar .even (r copyName)).parse Grammar.ampleFuel input consumeAll ruleCall
        state') := by
  -- The rule gets a unit of fuel more for its first call, which makes no difference.
  have hends := (flat_subtraction .even (r copyName)).parse_ne_exhausted bare_ruleCall
    (show 1 ≤ 2 ^ 32 by decide) hlength consumeAll state'
  rw [(Grammar.parse_le (Nat.le_succ Grammar.ampleFuel) consumeAll ruleCall state').resolve_left
    hends]
  obtain ⟨fuel, hfuel⟩ : ∃ fuel, Grammar.ampleFuel = fuel + 1 := ⟨Grammar.ampleFuel - 1, rfl⟩
  refine Grammar.parse_rel (fun next next' hs => ?_) (fun _ hs => hs) (MemoTable.Renamed.empty _)
  rw [hfuel]
  have hfirst : Run.Translates (rekeying T T' hr input)
      (copying.run input (fuel + 1) (copyOf cell))
      ((subtractionGrammar .even (r copyName)).run input (fuel + 2) ruleCall) :=
    translates_copy (fuel + 1) cell
  exact (hfirst.whole consumeAll ∅ rfl hs).mono (fun _ _ ho => ho.eq_rename id) fun _ _ h => h

/-- Recursion through copies that are built on the way and share a name does what recursion through
one declared rule does.  On every text both come to the same value and end, to the same failure at
the same position, or to the same fault, and their used sets and tables are the same once the name
is read as the id of the declared rule. -/
theorem copies_act_as_one_rule (text : String) (hlength : text.length < 2 ^ 32 - 2)
    (consumeAll : Bool) (state : State IntRule T) (state' : State IntRule T') :
    let read : Key → Key := Equiv.swap copyName (.id state'.workshop.supply.key)
    let copied := Eval.building subtractionByName
      (fun L => L.parse (Input.ofText text) consumeAll) state
    let declared := Eval.building (subtraction .even)
      (fun L => L.parse (Input.ofText text) consumeAll) state'
    declared ≠ .exhausted ∧
      copied.Rel (fun o o' => o' = o.rename read)
        (fun next next' => MemoTable.Renamed read next.memo next'.memo) declared := by
  intro read copied declared
  -- Exchanging the name and the id keeps distinct keys distinct.
  have hread : Function.Injective read := Equiv.injective _
  have hname : read copyName = .id state'.workshop.supply.key := Equiv.swap_apply_left _ _
  rw [← Input.length_tokens_ofText] at hlength
  obtain ⟨cell, workshop, hcopied⟩ := building_subtractionByName
    (fun L => L.parse (Input.ofText text) consumeAll) state
  obtain ⟨workshop', hdeclared⟩ := building_subtraction .even
    (fun L => L.parse (Input.ofText text) consumeAll) state'
  rw [show copied = _ from hcopied, show declared = _ from hdeclared, ← hname]
  exact ⟨(flat_subtraction .even _).parse_ne_exhausted bare_ruleCall
      (show 1 ≤ 2 ^ 32 by decide) hlength consumeAll _,
    parse_copyOf hread hlength cell consumeAll _ _⟩

/-- Two differences, one of which is the left side of the other, by copies and by a rule whose id is
the fourth. -/
theorem copies_act_as_one_rule_differences :
    let later : State IntRule HashedTable := { State.new with workshop := ⟨⟨3, 0⟩, []⟩ }
    "9-4-3".length < 2 ^ 32 - 2 ∧
      ∃ next next',
        Eval.building subtractionByName (fun L => L.parse (Input.ofText "9-4-3") true)
            (State.new : State IntRule OrderedTable) =
          .done (.success ⟨2, 5, .single (.name "subtraction_by_name")⟩) next ∧
        Eval.building (subtraction .even) (fun L => L.parse (Input.ofText "9-4-3") true) later =
          .done (.success ⟨2, 5, .single (.id 3)⟩) next' ∧
        MemoTable.Renamed (Equiv.swap copyName (.id 3)) next.memo next'.memo := by
  intro later
  have hshort : "9-4-3".length < 2 ^ 32 - 2 := by decide
  have hcopied : ∃ next, Eval.building subtractionByName
      (fun L => L.parse (Input.ofText "9-4-3") true) (State.new : State IntRule OrderedTable) =
        .done (.success ⟨2, 5, .single (.name "subtraction_by_name")⟩) next :=
    Result.exists_of_finished (by decide +kernel)
  obtain ⟨next, hcopied⟩ := hcopied
  obtain ⟨-, hrel⟩ := copies_act_as_one_rule "9-4-3" hshort true
    (State.new : State IntRule OrderedTable) later
  simp only [hcopied] at hrel
  obtain ⟨o', next', hdeclared, rfl, hmemo⟩ := hrel.of_done
  exact ⟨hshort, next, next', hcopied, hdeclared, hmemo⟩

end Samples
end LeftRec
