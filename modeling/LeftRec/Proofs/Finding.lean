import LeftRec.Proofs.Answers

/-!
# Finding — the first token that passes a test

Looking for a token scans what is left of the input in one loop.  The same token is found by
skipping, one by one, those that fail the test, and then taking one more.
-/

namespace LeftRec

variable {S : Signature} {T : Type → Type}

/-! ## The scanning loop -/

namespace Run

variable {width : S.Token → Nat} {test : S.Token → Bool} {skipped rest : List S.Token}

/-- Tokens that fail the test only move the position on. -/
theorem firstToken_append (hskipped : ∀ t ∈ skipped, test t = false) (pos : Nat) :
    firstToken width test pos (skipped ++ rest) =
      firstToken width test (pos + Input.span width skipped) rest := by
  induction skipped generalizing pos with
  | nil => rfl
  | cons t skipped ih =>
      have ht : test t = false := hskipped t List.mem_cons_self
      have hothers : ∀ u ∈ skipped, test u = false := fun u hu =>
        hskipped u (List.mem_cons_of_mem t hu)
      have hstep : firstToken width test pos (t :: (skipped ++ rest)) =
          firstToken width test (pos + width t) (skipped ++ rest) := by
        rw [firstToken, ht]
        rfl
      rw [List.cons_append, hstep, ih hothers, Input.span, Nat.add_assoc]

theorem firstToken_append_cons (hskipped : ∀ u ∈ skipped, test u = false) {t : S.Token}
    (ht : test t = true) (pos : Nat) :
    firstToken width test pos (skipped ++ t :: rest) =
      some (t, pos + Input.span width (skipped ++ [t])) := by
  have hspan : Input.span width (skipped ++ [t]) = Input.span width skipped + width t := by
    rw [Input.span_append]
    rfl
  rw [firstToken_append hskipped, firstToken, if_pos ht, hspan, Nat.add_assoc]

theorem firstToken_of_none (hskipped : ∀ t ∈ skipped, test t = false) (pos : Nat) :
    firstToken width test pos skipped = none := by
  rw [← List.append_nil skipped, firstToken_append hskipped]
  rfl

end Run

/-! ## Skipping and taking -/

/-- Skip the tokens that fail the test, then take one that passes it. -/
def Parser.skipping (test : S.Token → Bool) (name : String) : Parser S S.Token :=
  (Parser.many (.token (fun t => !test t) name)).next (.token test name)

namespace Grammar

variable [MemoTable T] {G : Grammar S} {input : Input S.Token} {fuel pos : Nat} {ctx : Context}
variable {state : State S T} {test : S.Token → Bool} {skipped rest : List S.Token} {t : S.Token}

/-- What the loop comes to is the answer. -/
theorem run_find (name : String) :
    G.run input (fuel + 1) (.find test name) pos ctx state =
      .done (Run.found name pos (Run.firstToken input.width test pos (input.rest pos))) state := rfl

theorem run_find_of_append (name : String) (hrest : input.rest pos = skipped ++ t :: rest)
    (hskipped : ∀ u ∈ skipped, test u = false) (ht : test t = true) :
    G.run input (fuel + 1) (.find test name) pos ctx state =
      .done (.yield t (pos + Input.span input.width (skipped ++ [t]))) state := by
  rw [run_find, hrest, Run.firstToken_append_cons hskipped ht]
  rfl

theorem run_find_of_none (name : String) (hnone : ∀ t ∈ input.rest pos, test t = false) :
    G.run input (fuel + 1) (.find test name) pos ctx state =
      .done (.fail (.expecting name) pos) state := by
  rw [run_find, Run.firstToken_of_none hnone]
  rfl

/-- The skipped tokens end where the first one that passes the test stands. -/
theorem run_skipping_of_append (name : String) (hrest : input.rest pos = skipped ++ t :: rest)
    (hskipped : ∀ u ∈ skipped, test u = false) (ht : test t = true)
    (hfuel : skipped.length < fuel) :
    G.run input (fuel + 1) (.skipping test name) pos ctx state =
      .done (.yield t (pos + Input.span input.width (skipped ++ [t]))) state := by
  have hboth : input.rest pos = (skipped ++ [t]) ++ rest := by
    rw [hrest, List.append_assoc]
    rfl
  obtain ⟨middle, hskip, htake⟩ := (Input.reads_of_rest hboth).split
  have hstop : ∀ u after, input.next? middle = some (u, after) → (!test u) = false := by
    intro u after hnext
    obtain ⟨rfl, -⟩ := Prod.mk.inj (Option.some.inj (htake.next?.symm.trans hnext))
    rw [ht]
    rfl
  have hmany : G.Yields input (fuel + 1) (.many (.token (fun t => !test t) name)) [] pos ctx state
      skipped middle state :=
    yields_many_token name hskip (fun u hu => by rw [hskipped u hu]; rfl) hstop hfuel
  exact (hmany.zipWith (fun _ b => b) (yields_token name htake.next? ht)).run_eq

/-- Looking for a token finds the first one from the position on that passes the test, and so does
skipping those that fail it and taking one more.  Without any such token the search fails where it
began.  Either way the state is left as it was. -/
theorem find_eq_skipping (G : Grammar S) (input : Input S.Token) (test : S.Token → Bool)
    (name : String) (fuel pos : Nat) (ctx : Context) (state : State S T) :
    ((∃ s next, G.run input (fuel + 1) (.find test name) pos ctx state =
        .done (.success s) next) ↔ ∃ t ∈ input.rest pos, test t = true) ∧
    (∀ skipped t rest, input.rest pos = skipped ++ t :: rest →
      (∀ u ∈ skipped, test u = false) → test t = true →
        G.run input (fuel + 1) (.find test name) pos ctx state =
          .done (.yield t (pos + Input.span input.width (skipped ++ [t]))) state ∧
        (skipped.length < fuel →
          G.run input (fuel + 1) (.skipping test name) pos ctx state =
            G.run input (fuel + 1) (.find test name) pos ctx state)) ∧
    ((∀ t ∈ input.rest pos, test t = false) →
      G.run input (fuel + 1) (.find test name) pos ctx state =
        .done (.fail (.expecting name) pos) state) := by
  refine ⟨⟨?_, ?_⟩, ?_, run_find_of_none name⟩
  · rintro ⟨s, next, hrun⟩
    by_contra hno
    have hnone : ∀ t ∈ input.rest pos, test t = false := fun t ht =>
      Bool.eq_false_iff.2 fun htest => hno ⟨t, ht, htest⟩
    rw [run_find_of_none name hnone] at hrun
    cases hrun
  · rintro ⟨t, ht, htest⟩
    obtain ⟨first, hfirst⟩ := Option.isSome_iff_exists.1 (List.find?_isSome.2 ⟨t, ht, htest⟩)
    obtain ⟨hpasses, skipped, rest, hrest, hskipped⟩ := List.find?_eq_some_iff_append.1 hfirst
    exact ⟨_, _, run_find_of_append name hrest (fun u hu => by simpa using hskipped u hu) hpasses⟩
  · intro skipped t rest hrest hskipped ht
    have hfind : G.run input (fuel + 1) (.find test name) pos ctx state =
        .done (.yield t (pos + Input.span input.width (skipped ++ [t]))) state :=
      run_find_of_append name hrest hskipped ht
    refine ⟨hfind, fun hfuel => ?_⟩
    rw [hfind, run_skipping_of_append name hrest hskipped ht hfuel]

/-- A semicolon behind two wide characters. -/
theorem find_eq_skipping_semicolon :
    let G : Grammar (TextSignature Unit Unit) := { define := fun _ => none }
    let state : State (TextSignature Unit Unit) OrderedTable := .new
    let semicolon : Char → Bool := (· == ';')
    G.run (Input.ofText "éé;") 4 (.find semicolon "semicolon") 0 ∅ state =
        .done (.yield ';' 5) state ∧
      G.run (Input.ofText "éé;") 4 (.skipping semicolon "semicolon") 0 ∅ state =
        G.run (Input.ofText "éé;") 4 (.find semicolon "semicolon") 0 ∅ state := by
  intro G state semicolon
  have hrest : (Input.ofText "éé;").rest 0 = ['é', 'é'] ++ ';' :: [] := by decide
  have hfirst : ∀ c ∈ ['é', 'é'], semicolon c = false := by simp [semicolon]
  have hfound := (find_eq_skipping G _ semicolon "semicolon" 3 0 ∅ state).2.1 _ _ _ hrest hfirst rfl
  exact ⟨hfound.1, hfound.2 (by decide)⟩

end Grammar

end LeftRec
