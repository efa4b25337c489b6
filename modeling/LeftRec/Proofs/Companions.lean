import LeftRec.Proofs.Parallel
import LeftRec.Proofs.Visits

/-!
# Companions — the visits of parallel runs, in pairs

Where two runs correspond, so do all the visits in their course: what the one run visits, the other
one visits at the corresponding position, with the same parser, fuel and context.  A memoized parser
goes the same way in both: it answers from the table in both or in neither, is curtailed in both or
in neither, and keeps what its body came to, or prefers what is stored, in both or in neither.
-/

namespace LeftRec

variable {S : Signature} {T T' : Type → Type} {α : Type}

/-! ## The ways of a memoized parser -/

/-- Which way a memoized parser goes. -/
inductive Way
  /-- The table answers. -/
  | hit
  /-- The recursion is curtailed. -/
  | curtailed
  /-- The outcome of the body is kept. -/
  | fresh
  /-- The body fails, and by the parity rule a stored success is taken in place of the failure. -/
  | recovered
  /-- The body succeeds, and a stored success that reaches further is taken. -/
  | grown
  deriving DecidableEq

/-- The way to go, by what the body came to and what is preferred to it. -/
def Way.after : Outcome α → Option (Success α) → Way
  | _, none => .fresh
  | .failure _, some _ => .recovered
  | .success _, some _ => .grown

namespace Grammar

/-- The visit of a memoized parser goes the way. -/
inductive Goes [MemoTable T] (G : Grammar S) (input : Input S.Token) : Way → Visit S T → Prop
  | hit {kind : S.Kind} {parity : Parity} {key : Key} {p : Parser S (S.Value kind)}
      {fuel pos : Nat} {ctx under : Context} {state : State S T} {o : Outcome (S.Value kind)} :
      state.lookup kind key pos = some (o, under) → ctx.canReuse under = true →
        Goes G input .hit ⟨.memo kind parity key p, fuel, pos, ctx, state⟩
  | curtailed {kind : S.Kind} {parity : Parity} {key : Key} {p : Parser S (S.Value kind)}
      {fuel pos : Nat} {ctx : Context} {state : State S T} :
      Run.Missed state kind key pos ctx → Run.depthBound (input.remaining pos) < ctx.depth key →
        Goes G input .curtailed ⟨.memo kind parity key p, fuel, pos, ctx, state⟩
  | body {kind : S.Kind} {parity : Parity} {key : Key} {p : Parser S (S.Value kind)}
      {fuel pos : Nat} {ctx : Context} {state middle : State S T} {o : Outcome (S.Value kind)} :
      Run.Missed state kind key pos ctx → ctx.depth key ≤ Run.depthBound (input.remaining pos) →
        ctx.depth key < Context.depthLimit →
        G.run input fuel p pos (ctx.withDepth key (ctx.depth key + 1)) state = .done o middle →
          Goes G input (.after o (Run.preferred parity (input.remaining pos) ctx o
            (middle.lookup kind key pos))) ⟨.memo kind parity key p, fuel, pos, ctx, state⟩

end Grammar

/-! ## Pairs of visits -/

variable [MemoTable T] [MemoTable T'] {G : Grammar S} {input other : Input S.Token}
variable {C : Correspondence G input other T T'}

/-- The other way around. -/
def Correspondence.symm (C : Correspondence G input other T T') :
    Correspondence G other input T' T where
  places j i := C.places i j
  states state' state := C.states state state'
  keys := C.keys
  aligned h := (C.aligned h).symm
  reads h hreads hreads' := C.reads h hreads' hreads
  lookup {state' state key j i} kind hs hkey hplace := by
    have hstored := C.lookup kind hs hkey hplace
    generalize state.lookup kind key i = stored at hstored
    generalize state'.lookup kind key j = stored' at hstored
    cases hstored with
    | none => exact .none
    | some h => exact .some ⟨h.1.flip, h.2.symm⟩
  store context hs hkey hplace ho := C.store context hs hkey hplace ho.flip
  note event event' hs := C.note event' event hs
  fill rule cell hs := ⟨(C.fill rule cell hs).1.symm, (C.fill rule cell hs).2⟩

/-- The same parser is run with the same fuel and under the same context, at corresponding positions
and from corresponding states. -/
inductive Visit.Parallel (C : Correspondence G input other T T') : Visit S T → Visit S T' → Prop
  | intro {α : Type} (p : Parser S α) (fuel : Nat) (ctx : Context) {i j : Nat}
      {state : State S T} {state' : State S T'} :
      C.places i j → C.states state state' →
        Parallel C ⟨p, fuel, i, ctx, state⟩ ⟨p, fuel, j, ctx, state'⟩

theorem Visit.Parallel.symm {v : Visit S T} {w : Visit S T'} (h : v.Parallel C w) :
    w.Parallel C.symm v := by
  cases h with
  | intro p fuel ctx hplace hs => exact .intro p fuel ctx hplace hs

namespace Grammar

section Outcomes

variable {p : Parser S α} {fuel i j : Nat} {ctx : Context} {state after : State S T}
variable {state' : State S T'}

theorem run_parallel_done (hp : G.Built (Parser.Keyed C.keys) p) (hplace : C.places i j)
    (hs : C.states state state') {o : Outcome α}
    (hrun : G.run input fuel p i ctx state = .done o after) :
    ∃ o' after', G.run other fuel p j ctx state' = .done o' after' ∧ o.Rel C.places o' ∧
      C.states after after' := by
  have h := run_parallel hp fuel ctx hplace hs
  rw [hrun] at h
  exact h.of_done

theorem run_parallel_success (hp : G.Built (Parser.Keyed C.keys) p) (hplace : C.places i j)
    (hs : C.states state state') {s : Success α}
    (hrun : G.run input fuel p i ctx state = .done (.success s) after) :
    ∃ stop after', G.run other fuel p j ctx state' =
        .done (.success { s with pos := stop }) after' ∧ C.places s.pos stop ∧
      C.states after after' := by
  obtain ⟨o', after', hrun', ho, hafter⟩ := run_parallel_done hp hplace hs hrun
  cases ho with
  | success hend => exact ⟨_, after', hrun', hend, hafter⟩

theorem run_parallel_failure (hp : G.Built (Parser.Keyed C.keys) p) (hplace : C.places i j)
    (hs : C.states state state') {e : Failure}
    (hrun : G.run input fuel p i ctx state = .done (.failure e) after) :
    ∃ stop after', G.run other fuel p j ctx state' =
        .done (.failure { e with pos := stop }) after' ∧ C.places e.pos stop ∧
      C.states after after' := by
  obtain ⟨o', after', hrun', ho, hafter⟩ := run_parallel_done hp hplace hs hrun
  cases ho with
  | failure hend => exact ⟨_, after', hrun', hend, hafter⟩

end Outcomes

/-! ### Rows and repetitions -/

section Progress

variable {fuel start start' pos : Nat} {ctx under : Context} {state middle : State S T}
variable {state' : State S T'}

theorem RowAt.parallel {parts rest : List (Parser S α)}
    (h : G.RowAt input fuel start ctx parts state rest pos middle)
    (hparts : ∀ p ∈ parts, G.Built (Parser.Keyed C.keys) p) (hstart : C.places start start')
    (hs : C.states state state') :
    ∃ pos' middle', G.RowAt other fuel start' ctx parts state' rest pos' middle' ∧
      C.places pos pos' ∧ C.states middle middle' := by
  induction h with
  | start => exact ⟨start', state', .start, hstart, hs⟩
  | next hat hrun ih =>
      obtain ⟨pos', middle', hat', hplace, hmiddle⟩ := ih
      have hp := hparts _ (hat.mem _ List.mem_cons_self)
      obtain ⟨stop, after', hrun', hend, hafter⟩ := run_parallel_success hp hplace hmiddle hrun
      rw [C.carried_eq hstart hplace] at hrun'
      exact ⟨_, after', hat'.next hrun', hend, hafter⟩

theorem ManyAt.parallel {p : Parser S α}
    (h : G.ManyAt input fuel p start ctx state pos under middle)
    (hp : G.Built (Parser.Keyed C.keys) p) (hstart : C.places start start')
    (hs : C.states state state') :
    ∃ pos' middle', G.ManyAt other fuel p start' ctx state' pos' under middle' ∧
      C.places pos pos' ∧ C.states middle middle' := by
  induction h with
  | start => exact ⟨start', state', .start, hstart, hs⟩
  | next _ hrun hmoved ih =>
      obtain ⟨pos', middle', hat', hplace, hmiddle⟩ := ih
      obtain ⟨stop, after', hrun', hend, hafter⟩ := run_parallel_success hp hplace hmiddle hrun
      have hmoved' : stop ≠ pos' := mt (C.eq_iff hend hplace).2 hmoved
      exact ⟨_, after', hat'.next hrun' hmoved', hend, hafter⟩

end Progress

/-! ### One step, and whole runs -/

theorem missed_parallel {state : State S T} {state' : State S T'} {kind : S.Kind} {key : Key}
    {i j : Nat} {ctx : Context} (h : Run.Missed state kind key i ctx)
    (hs : C.states state state') (hkey : C.keys key) (hplace : C.places i j) :
    Run.Missed state' kind key j ctx := by
  intro o' under hlookup'
  have hstored := C.lookup kind hs hkey hplace
  rw [hlookup'] at hstored
  generalize hlookup : state.lookup kind key i = stored at hstored
  cases hstored with
  | @some found _ hfound =>
      obtain ⟨o, under'⟩ := found
      obtain rfl : under' = under := hfound.2
      exact h o _ hlookup

/-- What a visit enters, its companion enters at the corresponding position. -/
theorem Enters.parallel {u v : Visit S T} {w : Visit S T'} (h : G.Enters input u v)
    (hpair : u.Parallel C w) (hbuilt : G.Built (Parser.Keyed C.keys) u.parser) :
    ∃ x, G.Enters other w x ∧ v.Parallel C x := by
  obtain ⟨_, _, _, hplace, hs⟩ := hpair
  cases h with
  | count what p => exact hbuilt.holds.1.elim
  | tryMap f p => exact ⟨_, .tryMap f p, .intro _ _ _ hplace hs⟩
  | zipWithLeft f p q => exact ⟨_, .zipWithLeft f p q, .intro _ _ _ hplace hs⟩
  | zipWithRight f p q hrun =>
      obtain ⟨stop, after', hrun', hend, hafter⟩ :=
        run_parallel_success (hbuilt.part (.zipWithLeft f p q)) hplace hs hrun
      refine ⟨_, .zipWithRight f p q hrun', ?_⟩
      rw [C.carried_eq hplace hend]
      exact .intro _ _ _ hend hafter
  | bindFirst p f => exact ⟨_, .bindFirst p f, .intro _ _ _ hplace hs⟩
  | bindNext p f hrun =>
      obtain ⟨stop, after', hrun', hend, hafter⟩ :=
        run_parallel_success (hbuilt.part (.bindFirst p f)) hplace hs hrun
      refine ⟨_, .bindNext p f hrun', ?_⟩
      rw [C.carried_eq hplace hend]
      exact .intro _ _ _ hend hafter
  | altLeft p q => exact ⟨_, .altLeft p q, .intro _ _ _ hplace hs⟩
  | altRight p q hrun he =>
      obtain ⟨stop, after', hrun', -, hafter⟩ :=
        run_parallel_failure (hbuilt.part (.altLeft p q)) hplace hs hrun
      exact ⟨_, .altRight p q hrun' he, .intro _ _ _ hplace hafter⟩
  | label name p => exact ⟨_, .label name p, .intro _ _ _ hplace hs⟩
  | commit p => exact ⟨_, .commit p, .intro _ _ _ hplace hs⟩
  | look p => exact ⟨_, .look p, .intro _ _ _ hplace hs⟩
  | row count part hat =>
      obtain ⟨pos', middle', hat', hend, hafter⟩ := hat.parallel hbuilt.parts hplace hs
      refine ⟨_, .row count part hat', ?_⟩
      rw [C.carried_eq hplace hend]
      exact .intro _ _ _ hend hafter
  | many p hat =>
      obtain ⟨pos', middle', hat', hend, hafter⟩ :=
        hat.parallel (hbuilt.part (.many p)) hplace hs
      exact ⟨_, .many p hat', .intro _ _ _ hend hafter⟩
  | memo parity key p hmissed hdepth hlimit =>
      have hmissed' := missed_parallel hmissed hs (hbuilt.holds.2 _ rfl) hplace
      rw [C.remaining_eq hplace] at hdepth
      exact ⟨_, .memo parity key p hmissed' hdepth hlimit, .intro _ _ _ hplace hs⟩
  | ref hdefine => exact ⟨_, .ref hdefine, .intro _ _ _ hplace hs⟩
  | @copy cell rule body _ _ _ _ _ hfill =>
      obtain ⟨hsame, hnext⟩ := C.fill rule cell hs
      rw [hfill] at hsame hnext
      exact ⟨_, .copy (Prod.ext hsame.symm rfl), .intro _ _ _ hplace hnext⟩

/-- Every visit in the course of a run has a companion in the course of a parallel one. -/
theorem Visits.parallel {root v : Visit S T} {root' : Visit S T'} (h : G.Visits input root v)
    (hpair : root.Parallel C root') (hbuilt : G.Built (Parser.Keyed C.keys) root.parser) :
    ∃ w, G.Visits other root' w ∧ v.Parallel C w := by
  induction h with
  | refl => exact ⟨root', .refl, hpair⟩
  | tail hvisits henters ih =>
      obtain ⟨w, hw, hvw⟩ := ih
      obtain ⟨x, hx, hux⟩ := henters.parallel hvw (hbuilt.of_uses (Visits.uses hvisits))
      exact ⟨x, hw.tail hx, hux⟩

/-! ### Companions go the same way -/

theorem Way.after_parallel {o o' : Outcome α} {s s' : Option (Success α)}
    (ho : o.Rel C.places o')
    (hs : Option.Rel (fun s s' => (Outcome.success s).Rel C.places (.success s')) s s') :
    Way.after o s = Way.after o' s' := by
  cases hs with
  | none => rfl
  | some => cases ho <;> rfl

theorem Goes.parallel {way : Way} {v : Visit S T} {w : Visit S T'} (h : G.Goes input way v)
    (hpair : v.Parallel C w) (hbuilt : G.Built (Parser.Keyed C.keys) v.parser) :
    G.Goes other way w := by
  obtain @⟨_, _, _, ctx, _, j, _, state', hplace, hs⟩ := hpair
  cases h with
  | @hit kind _ key _ _ _ _ _ _ _ hlookup hreuse =>
      have hstored := C.lookup kind hs (hbuilt.holds.2 _ rfl) hplace
      rw [hlookup] at hstored
      generalize hlookup' : state'.lookup kind key j = stored at hstored
      cases hstored with
      | @some _ found hfound =>
          obtain ⟨o', under'⟩ := found
          obtain rfl : _ = under' := hfound.2
          exact .hit hlookup' hreuse
  | curtailed hmissed hdepth =>
      rw [C.remaining_eq hplace] at hdepth
      exact .curtailed (missed_parallel hmissed hs (hbuilt.holds.2 _ rfl) hplace) hdepth
  | @body kind parity key p _ _ _ _ middle o hmissed hdepth hlimit hrun =>
      have hkey : C.keys key := hbuilt.holds.2 _ rfl
      have hmissed' := missed_parallel hmissed hs hkey hplace
      rw [C.remaining_eq hplace] at hdepth ⊢
      obtain ⟨o', middle', hrun', ho, hmiddle⟩ :=
        run_parallel_done (hbuilt.part (.memo kind parity key p)) hplace hs hrun
      have hpreferred := Run.rel_preferred parity (other.remaining j) ctx ho
        (C.lookup kind hmiddle hkey hplace)
      rw [Way.after_parallel ho hpreferred]
      exact .body hmissed' hdepth hlimit hrun'

/-- A visit goes a way just if its companion does. -/
theorem goes_iff {way : Way} {v : Visit S T} {w : Visit S T'} (hpair : v.Parallel C w)
    (hbuilt : G.Built (Parser.Keyed C.keys) v.parser) :
    G.Goes input way v ↔ G.Goes other way w := by
  refine ⟨fun h => h.parallel hpair hbuilt, fun h => h.parallel hpair.symm ?_⟩
  cases hpair with
  | intro => exact hbuilt

end Grammar

end LeftRec
