import LeftRec.Memo.Ordered
import LeftRec.Proofs.Nesting
import LeftRec.Proofs.Succession
import LeftRec.Proofs.Transparency
import LeftRec.Samples.Text

/-!
# Packrat — a body is run once at a position

Where the plain grammar finishes, a memoized parser runs its body the first time that it is invoked
at a position, and never again.  It is not invoked there while its body is being run, and whatever
the body comes to is stored under the empty context, so that every later invocation finds it and may
reuse it.
-/

namespace LeftRec

variable {S : Signature} {T : Type → Type} {α : Type}

/-! ## Invocations of one memoized parser -/

/-- Such a visit is one of a memoized parser. -/
theorem Visit.memo_of_enters {key : Key} {pos : Nat} {v : Visit S T}
    (h : v.enters key pos = true) : ∃ kind parity body fuel ctx state,
      v = ⟨(.memo kind parity key body : Parser S (S.Value kind)), fuel, pos, ctx, state⟩ := by
  obtain ⟨parser, fuel, at', ctx, state⟩ := v
  cases parser with
  | memo kind parity own body =>
      obtain ⟨rfl, rfl⟩ : at' = pos ∧ own = key := by simpa [enters, Parser.node?] using h
      exact ⟨kind, parity, body, fuel, ctx, state, rfl⟩
  | unit | fail | literal | token | find | all | eof | scan | custom | count | tryMap | zipWith
  | bind | alt | label | commit | look | row | many | ref | delay =>
      simp [enters, Parser.node?] at h

variable [MemoTable T]

/-- A memoized parser is invoked and finds an outcome in the table that it may reuse. -/
def Visit.Hits : Visit S T → Prop
  | ⟨.memo kind _ key _, _, pos, ctx, state⟩ =>
      ∃ o under, state.lookup kind key pos = some (o, under) ∧ ctx.canReuse under = true
  | _ => False

/-- The table has an outcome of the given kind for the key and the position. -/
def Held (kind : S.Kind) (key : Key) (pos : Nat) (table : T (Entry S)) : Prop :=
  ∃ outcome context, MemoTable.get? table (key, pos) = some { kind, outcome, context }

theorem held_iff {kind : S.Kind} {key : Key} {pos : Nat} {state : State S T} :
    Held kind key pos state.memo ↔ ∃ o under, state.lookup kind key pos = some (o, under) := by
  simp only [Held, State.lookup_eq_some]

namespace Grammar

variable {G : Grammar S} {input : Input S.Token}

theorem not_enters_of_hits {v w : Visit S T} (h : v.Hits) : ¬ G.Enters input v w := by
  intro henters
  cases henters with
  | memo parity key p hmissed _ _ =>
      obtain ⟨o, under, hlookup, hreuse⟩ := h
      cases (hmissed o under hlookup).symm.trans hreuse
  | count | tryMap | zipWithLeft | zipWithRight | bindFirst | bindNext | altLeft | altRight | label
  | commit | look | row | many | ref | copy => cases h

variable (G input) in
/-- Some invocations of one memoized parser at one position, and whether the table has an outcome
for it there before and after them.  The first one runs the body if the table has none, and all
others are answered from the table. -/
inductive Served : Prop → List (Visit S T) → Prop → Prop
  | never {before after : Prop} : ¬ before → ¬ after → Served before [] after
  | later {before after : Prop} {calls : List (Visit S T)} :
      before → after → (∀ v ∈ calls, v.Hits) → Served before calls after
  | first {before after : Prop} {v body : Visit S T} {calls : List (Visit S T)} :
      ¬ before → after → G.Enters input v body → (∀ w ∈ calls, w.Hits) →
        Served before (v :: calls) after

namespace Served

variable {before middle after : Prop} {calls more : List (Visit S T)}

theorem unchanged (h : before ↔ after) : G.Served input before ([] : List (Visit S T)) after := by
  by_cases hbefore : before
  · exact .later hbefore (h.1 hbefore) fun _ => nofun
  · exact .never hbefore (hbefore ∘ h.2)

theorem append (h : G.Served input before calls middle) (h' : G.Served input middle more after) :
    G.Served input before (calls ++ more) after := by
  cases h with
  | never hbefore hmiddle =>
      cases h' with
      | never _ hafter => exact .never hbefore hafter
      | later hheld => exact absurd hheld hmiddle
      | first _ hafter henters hlater => exact .first hbefore hafter henters hlater
  | later hbefore hmiddle hcalls =>
      cases h' with
      | never hnone => exact absurd hmiddle hnone
      | later _ hafter hmore =>
          refine .later hbefore hafter fun v hv => ?_
          exact (List.mem_append.1 hv).elim (hcalls v) (hmore v)
      | first hnone => exact absurd hmiddle hnone
  | first hbefore hmiddle henters hcalls =>
      cases h' with
      | never hnone => exact absurd hmiddle hnone
      | later _ hafter hmore =>
          refine .first hbefore hafter henters fun v hv => ?_
          exact (List.mem_append.1 hv).elim (hcalls v) (hmore v)
      | first hnone => exact absurd hmiddle hnone

end Served

/-- What is served by each visit is served by all of them, one after the other. -/
theorem OneByOne.served {kind : S.Kind} {key : Key} {pos : Nat} {visits : List (Visit S T)}
    {table table' : T (Entry S)} (h : G.OneByOne input table visits table')
    (hvisits : ∀ v ∈ visits, ∀ o after, G.visit input v = .done o after →
      G.Served input (Held kind key pos v.state.memo)
        ((G.invocations input v).filter (Visit.enters key pos)) (Held kind key pos after.memo)) :
    G.Served input (Held kind key pos table)
      ((visits.flatMap (G.invocations input)).filter (Visit.enters key pos))
      (Held kind key pos table') := by
  induction h with
  | none => exact .unchanged Iff.rfl
  | more hrun _ ih =>
      rw [List.flatMap_cons, List.filter_append]
      exact (hvisits _ List.mem_cons_self _ _ hrun).append
        (ih fun v hv => hvisits v (List.mem_cons_of_mem _ hv))

/-- Under the empty context nothing is being run. -/
theorem Counted.of_empty {root : Visit S T} (hoffered : G.Built Parser.Offered root.parser)
    (hctx : root.ctx = ∅) (hstate : root.state.Along (.ahead input)) :
    G.Counted input [] root where
  offered := hoffered
  along := hstate
  behind := fun _ hv => (List.not_mem_nil hv).elim
  get? key := by rw [hctx, Context.get?_empty, active_nil, if_pos rfl]
  bounded _ _ := Nat.zero_le _

theorem Counted.visits [LawfulMemoTable T] {stack : List (Visit S T)} {v w : Visit S T}
    (h : G.Counted input stack v) (hvisits : G.Visits input v w) :
    ∃ more, G.Counted input (more ++ stack) w := by
  induction hvisits with
  | refl => exact ⟨[], h⟩
  | tail _ henters ih =>
      obtain ⟨more, hcounted⟩ := ih
      exact ⟨_ :: more, hcounted.enters henters⟩

end Grammar

namespace Comparison

variable [LawfulMemoTable T] {C : Comparison S T} {key : Key} {pos : Nat}

/-- While a body is being run, its parser is not invoked at the position where it was entered. -/
theorem Follows.not_enters {stack : List (Visit S T)} {v body w : Visit S T} (h : C.Follows v)
    (hcounted : C.grammar.Counted C.input stack v) (hv : v.enters key pos = true)
    (henters : C.grammar.Enters C.input v body) (hvisits : C.grammar.Visits C.input body w) :
    ¬ w.enters key pos = true := by
  intro hw
  -- The context of the inner visit counts the outer one, but the rule is not being run there.
  obtain ⟨more, hinner⟩ := (hcounted.enters henters).visits hvisits
  obtain ⟨kind, parity, own, fuel, ctx, state, rfl⟩ := Visit.memo_of_enters hw
  obtain ⟨_, _, _, hshadows⟩ := h.visits (hvisits.head henters)
  have hzero : ctx.depth key = 0 := hshadows.depth_eq
  have hcount : ctx.depth key = active key pos (more ++ v :: stack) := hinner.depth_eq key
  have hactive : 0 < active key pos (more ++ v :: stack) :=
    List.countP_pos_iff.2 ⟨v, by simp, hv⟩
  omega

section Served

variable {kind : S.Kind} {parity : Parity} {body : Parser S (S.Value kind)}
variable {stack : List (Visit S T)} {v : Visit S T} {o : Outcome v.α} {after : State S T}

/-- A visit that enters no body at the position stores nothing for it there. -/
theorem held_elsewhere (hv : v.enters key pos = false) {table : T (Entry S)}
    (hafter : after.memo = table ∨ ∃ slot entry, C.grammar.Stores C.input v slot entry ∧
      after.memo = MemoTable.insert table slot entry) :
    Held kind key pos table ↔ Held kind key pos after.memo := by
  rcases hafter with rfl | ⟨slot, entry, hstores, hafter⟩
  · exact Iff.rfl
  · cases hstores with
    | @memo own parity key' p fuel at' ctx state last o hmissed hdepth hrun =>
        have hne : (key', at') ≠ (key, pos) := by
          rintro ⟨⟩
          simp [Visit.enters, Parser.node?] at hv
        simp only [Held, hafter, LawfulMemoTable.get?_insert, if_neg hne]

/-- Where a memoized parser is invoked it answers from the table, or runs its body and stores what
that comes to. -/
theorem Follows.served_here (huses : C.Uses (.memo kind parity key body)) (h : C.Follows v)
    (hcounted : C.grammar.Counted C.input stack v) (hv : v.enters key pos = true)
    (hrun : C.grammar.visit C.input v = .done o after) :
    C.grammar.Served C.input (Held kind key pos v.state.memo)
      (v :: ((C.grammar.entered C.input v).flatMap (C.grammar.invocations C.input)).filter
        (Visit.enters key pos)) (Held kind key pos after.memo) := by
  have hinside (w : Visit S T) (hw : w ∈ (C.grammar.entered C.input v).flatMap
      (C.grammar.invocations C.input)) : ¬ w.enters key pos = true := by
    obtain ⟨u, hu, hw⟩ := List.mem_flatMap.1 hw
    exact h.not_enters hcounted hv (Grammar.enters_of_mem hu) (Grammar.visits_of_mem u hw)
  rw [List.filter_eq_nil_iff.2 hinside]
  obtain ⟨own, parity', body', fuel, ctx, state, rfl⟩ := Visit.memo_of_enters hv
  obtain ⟨bare, o', last, h⟩ := h
  -- The key belongs to one memoized parser only.
  obtain ⟨⟩ := C.keys ⟨own, parity', key, body'⟩ ⟨kind, parity, key, body⟩ h.uses huses rfl
  cases fuel with
  | zero => cases hrun
  | succ fuel =>
      replace hrun : Run.memo C.input kind parity key (C.grammar.run C.input (fuel + 1) body) pos
        ctx state = .done o after := hrun
      rcases Run.memo_eq_done.1 hrun with
        ⟨under, hlookup, hreuse, rfl⟩ | ⟨hmissed, hdepth, -, rfl⟩ | ⟨hmissed, hdepth, hrefresh⟩
      · have hheld : Held kind key pos state.memo := held_iff.2 ⟨o, under, hlookup⟩
        refine .later hheld hheld fun w hw => ?_
        obtain rfl := List.mem_singleton.1 hw
        exact ⟨o, under, hlookup, hreuse⟩
      · have hzero : ctx.depth key = 0 := h.depth_eq
        omega
      · obtain ⟨hlimit, fresh, middle, hbody, hkeep⟩ := Run.refresh_eq_done.1 hrefresh
        obtain ⟨rfl, rfl⟩ := Prod.mk.inj hkeep
        refine .first (fun hheld => ?_) ?_ (.memo parity key body hmissed hdepth hlimit) nofun
        -- What the table has was stored under the empty context, and would have been reused.
        · obtain ⟨stored, under, hlookup⟩ := held_iff.1 hheld
          obtain ⟨-, -, rfl⟩ := h.mirrors.stored_eq h.uses h.plain hlookup
          cases hmissed stored ∅ hlookup
        · exact held_iff.2 ⟨_, _, Run.lookup_keep_self⟩

/-- In the course of a followed visit a memoized parser runs its body at a position only if the
table has no outcome for it, and then only the first time that it is invoked there. -/
theorem Follows.served (huses : C.Uses (.memo kind parity key body)) (pos : Nat) :
    ∀ v : Visit S T, C.Follows v → ∀ stack, C.grammar.Counted C.input stack v →
      ∀ o after, C.grammar.visit C.input v = .done o after →
        C.grammar.Served C.input (Held kind key pos v.state.memo)
          ((C.grammar.invocations C.input v).filter (Visit.enters key pos))
          (Held kind key pos after.memo) := by
  refine Grammar.visit_induction C.grammar C.input
    fun v ih hfollows stack hcounted o after hrun => ?_
  obtain ⟨table, hchain, hafter⟩ := Grammar.one_by_one hcounted.offered.holds.composed hrun
  rw [Grammar.invocations_eq]
  cases hv : v.enters key pos with
  | true =>
      rw [List.filter_cons_of_pos hv]
      exact hfollows.served_here huses hcounted hv hrun
  | false =>
      rw [List.filter_cons_of_neg (Bool.eq_false_iff.1 hv), ← held_elsewhere hv hafter]
      refine hchain.served fun w hw => ?_
      have henters := Grammar.enters_of_mem hw
      exact ih w henters (hfollows.enters henters) _ (hcounted.enters henters)

end Served

end Comparison

namespace Grammar

variable [LawfulMemoTable T] {G : Grammar S} {input : Input S.Token}

/-- Where the erased grammar finishes from a state without entries, the memoized one finishes too,
and of all the visits in its course those that invoke one memoized parser at one position are
answered from the table, except for the first one, which runs the body. -/
theorem body_runs_once {p : Parser S α} {fuel pos : Nat} {state after : State S T} {o : Outcome α}
    (hsteady : G.Steady) (hoffered : G.Built Parser.Offered p)
    (hkeys : G.DistinctKeys after.Built p) (hstate : state.NoEntries)
    (hplain : G.erase.run input fuel p.erase pos ∅ state = .done o after) :
    let root : Visit S T := ⟨p, fuel, pos, ∅, state⟩
    (∃ next, G.visit input root = .done o next) ∧
    (∀ v, v ∈ G.invocations input root ↔ G.Visits input root v) ∧
    ∀ key at',
      (G.invocations input root).filter (Visit.enters key at') = [] ∨
      ∃ first later,
        (G.invocations input root).filter (Visit.enters key at') = first :: later ∧
          (∃ body, G.Enters input first body) ∧
          ∀ v ∈ later, v.Hits ∧ ∀ body, ¬ G.Enters input v body := by
  intro root
  let C : Comparison S T :=
    { grammar := G, input, root := p, final := after, steady := hsteady, offered := hoffered,
      keys := hkeys }
  have hshadows : C.Shadows fuel p pos ∅ state state o after :=
    .fresh .itself (.of_noEntries hstate) hplain (.refl after)
  have hroot : C.Follows root := ⟨state, o, after, hshadows⟩
  obtain ⟨next, hrun, -⟩ := Comparison.tracked fuel p hshadows
  have hfinish (v : Visit S T) (hv : G.Visits input root v) :
      ∃ o after, G.visit input v = .done o after := by
    obtain ⟨_, o, _, h⟩ := hroot.visits hv
    obtain ⟨next, hrun, -⟩ := Comparison.tracked v.fuel v.parser h
    exact ⟨o, next, hrun⟩
  have hcounted : G.Counted input [] root := .of_empty hoffered rfl (hstate.along _)
  refine ⟨⟨next, hrun⟩, fun v => mem_invocations_iff hfinish, fun key at' => ?_⟩
  cases hcalls : (G.invocations input root).filter (Visit.enters key at') with
  | nil => exact .inl rfl
  | cons first later =>
      -- The first invocation names the memoized parser that they all are of.
      have hfirst : first ∈ (G.invocations input root).filter (Visit.enters key at') := by
        rw [hcalls]
        exact List.mem_cons_self
      obtain ⟨hlisted, henters⟩ := List.mem_filter.1 hfirst
      obtain ⟨_, _, _, hmemo⟩ := hroot.visits (visits_of_mem root hlisted)
      obtain ⟨kind, parity, body, _, _, _, rfl⟩ := Visit.memo_of_enters henters
      have hserved :=
        Comparison.Follows.served hmemo.uses at' root hroot [] hcounted o next hrun
      rw [hcalls] at hserved
      have hnone : ¬ Held kind key at' state.memo := by
        rw [held_iff, hstate kind key at']
        rintro ⟨_, _, ⟨⟩⟩
      cases hserved with
      | later hheld => exact absurd hheld hnone
      | first _ _ hbody hlater =>
          refine .inr ⟨_, _, rfl, ⟨_, hbody⟩, fun v hv => ?_⟩
          exact ⟨hlater v hv, fun body => not_enters_of_hits (hlater v hv)⟩

/-- A letter that is looked for and then tried with one sign and with another one behind it. -/
theorem body_runs_once_letter :
    let letter : Parser (TextSignature Unit String) String :=
      .memo (S := TextSignature Unit String) () .even (.id 0) (.text "x")
    let rule : Parser (TextSignature Unit String) String :=
      .ref (S := TextSignature Unit String) ()
    let start := rule.look.next ((rule.skip (.text "+")) ||| (rule.skip (.text "-")))
    let G : Grammar (TextSignature Unit String) := { define := fun _ => some letter }
    let root : Visit (TextSignature Unit String) OrderedTable := ⟨start, 3, 0, ∅, .new⟩
    ∃ first later,
      (G.invocations (Input.ofText "x-") root).filter (Visit.enters (.id 0) 0) = first :: later ∧
        (∃ body, G.Enters (Input.ofText "x-") first body) ∧ ∀ v ∈ later, v.Hits := by
  intro letter rule start G root
  let nodes : List (MemoNode (TextSignature Unit String)) := letter.node?.toList
  have other {β : Type} {q : Parser (TextSignature Unit String) β} (hq : q.node? = none) :
      True ∧ q.Listed nodes := ⟨trivial, fun node h => by rw [hq] at h; cases h⟩
  have hall : G.Built (fun q => q.Offered ∧ q.Listed nodes) start := by
    refine .of_defined ?_ fun _ => ⟨⟨trivial, ?_⟩, other rfl, other rfl⟩
    · exact ⟨other rfl, ⟨other rfl, other rfl⟩, other rfl,
        ⟨other rfl, other rfl, other rfl, other rfl⟩, other rfl, other rfl, other rfl, other rfl⟩
    · rintro _ ⟨⟩
      exact List.mem_cons_self
  let check (o : Outcome String) (_ : State (TextSignature Unit String) OrderedTable) : Bool :=
    decide (o = .success ⟨"x", 2, ∅⟩)
  have hcheck : (G.erase.run (Input.ofText "x-") 3 start.erase 0 ∅ .new).finishedWith check =
      true := by
    decide +kernel
  obtain ⟨o, after, hplain, -⟩ := Result.exists_of_finishedWith hcheck
  obtain ⟨-, hlisted, honce⟩ := body_runs_once (fun _ => Build.steady_fault _)
    (fun _ q hq => (hall q hq).1) (.of_listed (fun _ q hq => (hall q hq).2) (by decide))
    State.noEntries_new hplain
  -- The letter is invoked by the lookahead.
  have hvisits : G.Visits (Input.ofText "x-") root ⟨letter, 2, 0, ∅, .new⟩ :=
    ((Relation.ReflTransGen.single (.zipWithLeft _ _ _)).tail (.look _)).tail (.ref rfl)
  rcases honce (.id 0) 0 with hnone | ⟨first, later, hcalls, hbody, hlater⟩
  · exact absurd rfl (List.filter_eq_nil_iff.1 hnone _ ((hlisted _).2 hvisits))
  · exact ⟨first, later, hcalls, hbody, fun v hv => (hlater v hv).1⟩

end Grammar

end LeftRec
