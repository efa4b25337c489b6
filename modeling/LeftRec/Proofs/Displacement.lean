import LeftRec.Proofs.Binding
import LeftRec.Proofs.Relocation

/-!
# Displacement — what lies before a run does not matter

A run depends on the input from its start on only.  With something put before an input, a run that
starts behind it comes to what the run on the input alone comes to, with all positions moved on by
the extent of what was put before.
-/

namespace LeftRec

/-! ## Something before an input -/

namespace Input

variable {τ : Type}

/-- The input with some tokens before it. -/
def prepend (before : List τ) (input : Input τ) : Input τ :=
  { input with tokens := before ++ input.tokens }

theorem ofText_append (before text : String) :
    ofText (before ++ text) = (ofText text).prepend before.toList := by
  simp only [ofText, prepend, String.toList_append]

variable (before : List τ) (input : Input τ)

/-- The same remains where the position is moved on by the extent of what lies before. -/
theorem images_prepend :
    (input.prepend before).Images input (span input.width before + ·) input.Boundary := by
  have hextent : (input.prepend before).extent = span input.width before + input.extent :=
    span_append _ _ _
  intro i j
  constructor
  · intro h
    refine ⟨h.right, ?_⟩
    -- Both positions are told by what remains there.
    have hleft := h.left.add_span_rest
    have hright := h.right.add_span_rest
    rw [h.rest_eq, hextent] at hleft
    have hwidth : (input.prepend before).width = input.width := rfl
    rw [hwidth] at hleft
    show i = span input.width before + j
    omega
  · rintro ⟨⟨word, after, htokens, rfl⟩, rfl⟩
    have htokens' : (input.prepend before).tokens = (before ++ word) ++ after := by
      rw [List.append_assoc, ← htokens]
      rfl
    have hpos : span input.width before + span input.width word =
        span (input.prepend before).width (before ++ word) := (span_append _ _ _).symm
    exact
      { left := ⟨before ++ word, after, htokens', hpos⟩
        right := ⟨word, after, htokens, rfl⟩
        rest_eq := by
          show (input.prepend before).rest (span input.width before + span input.width word) = _
          rw [hpos, rest_of_append htokens', rest_of_append htokens] }

end Input

/-! ## Runs behind it -/

namespace Grammar

variable {S : Signature} {T : Type → Type} [MemoTable T] [LawfulMemoTable T] {G : Grammar S}
variable {α : Type}

/-- From an empty table and under any context, running a parser behind some tokens comes to what
running it at the start of the input alone comes to: if that run uses up its fuel or stops at a
fault, so does this one, and otherwise the outcomes are the same but for the position, which is
moved on by the extent of the tokens.  The tables are the same up to this move. -/
theorem run_prepend (hsteady : G.Steady) {p : Parser S α} (hp : G.Built Parser.Offered p)
    (before : List S.Token) (input : Input S.Token) (fuel : Nat) (ctx : Context)
    {state : State S T} (hempty : state.NoEntries) :
    let n := Input.span input.width before
    (G.run (input.prepend before) fuel p n ctx state).Rel
      (fun o o' => o = o'.relocate (n + ·) ∧ input.Boundary o'.pos)
      (State.Image (n + ·) input.Boundary) (G.run input fuel p 0 ctx state) := by
  intro n
  exact (Input.images_prepend before input).run_relocate hsteady hp fuel Input.boundary_zero ctx
    hempty

/-- Letters behind two Greek ones, of two bytes each. -/
theorem run_prepend_letters :
    ∃ after after' : State (TextSignature Unit String) OrderedTable,
      letters.run (Input.ofText "λμxx") 20 letter 4 ∅ .new =
        .done (.success ⟨"xx", 6, .single (.id 0)⟩) after ∧
      letters.run (Input.ofText "xx") 20 letter 0 ∅ .new =
        .done (.success ⟨"xx", 2, .single (.id 0)⟩) after' ∧
      State.Image (4 + ·) (Input.ofText "xx").Boundary after after' := by
  have hsteady : letters.Steady := fun _ => Build.steady_fault _
  have hempty : (.new : State (TextSignature Unit String) OrderedTable).NoEntries :=
    State.noEntries_new
  obtain ⟨after', hletters⟩ := run_letter
  have htext : (Input.ofText "xx").prepend "λμ".toList = Input.ofText "λμxx" :=
    (Input.ofText_append "λμ" "xx").symm
  have hrun := htext ▸ run_prepend hsteady (built_letters (p := letter) trivial) "λμ".toList
    (Input.ofText "xx") 20 ∅ hempty
  rw [hletters] at hrun
  obtain ⟨o, after, hbehind, ⟨rfl, -⟩, himage⟩ := hrun.of_done_right
  exact ⟨after, after', hbehind, hletters, himage⟩

end Grammar

end LeftRec
