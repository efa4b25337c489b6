import LeftRec.Proofs.Progress
import LeftRec.Proofs.Provenance

/-!
# Congruence — a visit is determined by what it enters

Two runs that differ in their fuel or in the parity of memoized rules are compared visit by visit.
If all that a visit enters comes to the same in both, then so does the visit itself: a repetition
has rounds enough for the tokens that remain, and the parity of a rule counts only where its body
fails although the table holds a success that may be reused.
-/

namespace LeftRec

variable {S : Signature} {T : Type → Type} {α β γ : Type}

/-! ## Computations -/

namespace Eval

variable {σ : Type} {state : σ} {x y : Eval σ α}

/-- The rests are compared only where the first part leads. -/
theorem bind_congr {f g : α → Eval σ β} (hx : x state = y state)
    (hf : ∀ a middle, y state = .done a middle → f a middle = g a middle) :
    (x >>= f) state = (y >>= g) state := by
  rw [bind_apply, bind_apply, hx]
  cases h : y state with
  | exhausted => rfl
  | stopped fault next => rfl
  | done a middle => exact hf a middle h

theorem map_congr (f : α → β) (hx : x state = y state) : (f <$> x) state = (f <$> y) state := by
  rw [map_apply, map_apply, hx]

/-- Finishing alike with what the last part found. -/
theorem finish_congr {f : α → β} (hx : x state = y state) :
    (x >>= fun a => pure (f a)) state = (y >>= fun a => pure (f a)) state :=
  bind_congr hx fun _ _ _ => rfl

end Eval

/-! ## Combinators -/

namespace Run

variable {p p' : Run S T α} {q q' : Run S T β} {pos : Nat} {ctx : Context} {state : State S T}

theorem tryMap_congr (f : α → Except Fault β) (hp : p' pos ctx state = p pos ctx state) :
    tryMap f p' pos ctx state = tryMap f p pos ctx state :=
  Eval.bind_congr hp fun _ _ _ => rfl

theorem bind_congr {f f' : α → Run S T β} (hp : p' pos ctx state = p pos ctx state)
    (hf : ∀ s middle, p pos ctx state = .done (.success s) middle →
      f' s.value s.pos (ctx.carried pos s.pos) middle =
        f s.value s.pos (ctx.carried pos s.pos) middle) :
    bind p' f' pos ctx state = bind p f pos ctx state := by
  refine Eval.bind_congr hp fun first middle h => ?_
  cases first with
  | failure e => rfl
  | success s => exact Eval.finish_congr (hf s middle h)

theorem zipWith_congr (f : α → β → γ) (hp : p' pos ctx state = p pos ctx state)
    (hq : ∀ s middle, p pos ctx state = .done (.success s) middle →
      q' s.pos (ctx.carried pos s.pos) middle = q s.pos (ctx.carried pos s.pos) middle) :
    zipWith f p' q' pos ctx state = zipWith f p q pos ctx state := by
  refine Eval.bind_congr hp fun first middle h => ?_
  cases first with
  | failure e => rfl
  | success s => exact Eval.finish_congr (hq s middle h)

theorem alt_congr {q q' : Run S T α} (hp : p' pos ctx state = p pos ctx state)
    (hq : ∀ e middle, p pos ctx state = .done (.failure e) middle → e.isFatal = false →
      q' pos ctx middle = q pos ctx middle) :
    alt p' q' pos ctx state = alt p q pos ctx state := by
  refine Eval.bind_congr hp fun first middle h => ?_
  cases first with
  | success s => rfl
  | failure e =>
      cases he : e.isFatal with
      | true => simp only [he, if_true]
      | false =>
          simp only [he, Bool.false_eq_true, if_false]
          exact Eval.bind_congr (hq e middle h he) fun _ _ _ => rfl

theorem label_congr (name : String) (hp : p' pos ctx state = p pos ctx state) :
    label name p' pos ctx state = label name p pos ctx state :=
  Eval.finish_congr hp

theorem commit_congr (hp : p' pos ctx state = p pos ctx state) :
    commit p' pos ctx state = commit p pos ctx state :=
  Eval.finish_congr hp

theorem look_congr (hp : p' pos ctx state = p pos ctx state) :
    look p' pos ctx state = look p pos ctx state :=
  Eval.finish_congr hp

/-! ### Memoization -/

/-- Which success is preferred depends on the parity only if a failure meets a success that may be
reused. -/
theorem preferred_congr {parity parity' : Parity} {remaining : Nat} {fresh : Outcome α}
    {stored : Option (Outcome α × Context)}
    (h : ∀ e s under, fresh = .failure e → stored = some (.success s, under) →
      ctx.canReuse under = true → parity' = parity) :
    preferred parity' remaining ctx fresh stored = preferred parity remaining ctx fresh stored := by
  cases stored with
  | none => cases fresh <;> rfl
  | some pair =>
      obtain ⟨o, under⟩ := pair
      cases o with
      | failure e => cases fresh <;> rfl
      | success s =>
          cases fresh with
          | success fresh => rfl
          | failure e =>
              cases hreuse : ctx.canReuse under with
              | true => rw [h e s under rfl rfl hreuse]
              | false => simp only [preferred, hreuse, Bool.and_false]

variable [MemoTable T]

theorem memo_congr {input : Input S.Token} {kind : S.Kind} {parity parity' : Parity} {key : Key}
    {body body' : Run S T (S.Value kind)}
    (hbody : Missed state kind key pos ctx → ctx.depth key ≤ depthBound (input.remaining pos) →
      ctx.depth key < Context.depthLimit →
        body' pos (ctx.withDepth key (ctx.depth key + 1)) state =
          body pos (ctx.withDepth key (ctx.depth key + 1)) state)
    (hparity : Missed state kind key pos ctx → ctx.depth key ≤ depthBound (input.remaining pos) →
      ctx.depth key < Context.depthLimit → ∀ e middle s under,
        body pos (ctx.withDepth key (ctx.depth key + 1)) state = .done (.failure e) middle →
          middle.lookup kind key pos = some (.success s, under) → ctx.canReuse under = true →
            parity' = parity) :
    memo input kind parity' key body' pos ctx state =
      memo input kind parity key body pos ctx state := by
  -- Neither a hit nor a curtailment looks at the body or at the parity.
  rcases hit_or_missed state kind key pos ctx with ⟨o, under, hlookup, hreuse⟩ | hmissed
  · rw [memo_of_hit hlookup hreuse, memo_of_hit hlookup hreuse]
  · rw [memo_of_missed hmissed, memo_of_missed hmissed]
    by_cases hdepth : depthBound (input.remaining pos) < ctx.depth key
    · rw [if_pos hdepth, if_pos hdepth]
    · rw [if_neg hdepth, if_neg hdepth]
      have hdepth := Nat.not_lt.1 hdepth
      unfold refresh
      refine Eval.bind_congr rfl fun deeper start h => ?_
      obtain ⟨hdeeper, rfl⟩ := Eval.ofExcept_eq_done.1 h
      obtain ⟨hlimit, rfl⟩ := deepen_eq_ok.1 hdeeper
      refine Eval.bind_congr (hbody hmissed hdepth hlimit) fun fresh middle h => ?_
      refine Eval.bind_congr rfl fun stored last hread => ?_
      obtain ⟨rfl, rfl⟩ := Result.done.inj hread
      rw [preferred_congr fun e s under hfresh hstored hreuse =>
        hparity hmissed hdepth hlimit e middle s under (hfresh ▸ h) hstored hreuse]

end Run

/-! ## Other parities -/

/-- The parser with other parities of its memoized parts. -/
def Parser.mapParity (f : Parity → Parity) : {α : Type} → Parser S α → Parser S α
  | _, .count what p => .count what (p.mapParity f)
  | _, .tryMap g p => .tryMap g (p.mapParity f)
  | _, .zipWith g p q => .zipWith g (p.mapParity f) (q.mapParity f)
  | _, .bind p g => .bind (p.mapParity f) fun a => (g a).mapParity f
  | _, .alt p q => .alt (p.mapParity f) (q.mapParity f)
  | _, .label name p => .label name (p.mapParity f)
  | _, .commit p => .commit (p.mapParity f)
  | _, .look p => .look (p.mapParity f)
  | _, .row n part => .row n fun i => (part i).mapParity f
  | _, .many p => .many (p.mapParity f)
  | _, .memo kind parity key p => .memo kind (f parity) key (p.mapParity f)
  | _, p => p

@[simp]
theorem Parser.mapParity_id (p : Parser S α) : p.mapParity id = p := by
  induction p with
  | unit | fail | literal | token | find | all | eof | scan | custom | ref | delay => rfl
  | count what p ih => rw [mapParity, ih]
  | tryMap f p ih => rw [mapParity, ih]
  | zipWith f p q ihp ihq => rw [mapParity, ihp, ihq]
  | bind p f ihp ihf => rw [mapParity, ihp, funext ihf]
  | alt p q ihp ihq => rw [mapParity, ihp, ihq]
  | label name p ih => rw [mapParity, ih]
  | commit p ih => rw [mapParity, ih]
  | look p ih => rw [mapParity, ih]
  | row count part ih => rw [mapParity, funext ih]
  | many p ih => rw [mapParity, ih]
  | memo kind parity key p ih => rw [mapParity, ih, id]

/-- The grammar with other parities in its definitions.  Copies that are built late stay as they
are. -/
def Grammar.mapParity (f : Parity → Parity) (G : Grammar S) : Grammar S :=
  { G with define := fun rule => (G.define rule).map (Parser.mapParity f) }

theorem Grammar.mapParity_id (G : Grammar S) : G.mapParity id = G := by
  have hid (rule : S.Rule) : (G.define rule).map (Parser.mapParity id) = G.define rule := by
    rw [funext Parser.mapParity_id, Option.map_id']
  simp only [mapParity, hid]

namespace Grammar

variable [MemoTable T] {G : Grammar S} {input : Input S.Token}

variable (G input) in
/-- The body of the memoized visit fails, and the table holds a success by then that may be reused
around the body.  The parity of the rule decides which of them it keeps. -/
inductive Contested : Visit S T → Prop
  | memo {kind : S.Kind} {parity : Parity} {key : Key} {p : Parser S (S.Value kind)}
      {fuel pos : Nat} {ctx under : Context} {state middle : State S T} {e : Failure}
      {s : Success (S.Value kind)} :
      Run.Missed state kind key pos ctx →
        ctx.depth key ≤ Run.depthBound (input.remaining pos) →
          ctx.depth key < Context.depthLimit →
            G.run input fuel p pos (ctx.withDepth key (ctx.depth key + 1)) state =
                .done (.failure e) middle →
              middle.lookup kind key pos = some (.success s, under) → ctx.canReuse under = true →
                Contested ⟨.memo kind parity key p, fuel, pos, ctx, state⟩

/-! ## Rows and repetitions -/

section Progress

variable {fuel start : Nat} {ctx : Context} {state : State S T}

theorem rowFrom_congr {again : Parser S α → Run S T α} {parts rest : List (Parser S α)} {pos : Nat}
    {middle : State S T} (hat : G.RowAt input fuel start ctx parts state rest pos middle)
    (hparts : ∀ p rest pos middle,
      G.RowAt input fuel start ctx parts state (p :: rest) pos middle →
        again p pos (ctx.carried start pos) middle =
          G.run input fuel p pos (ctx.carried start pos) middle) (used : Used) :
    Run.rowFrom start ctx (rest.map again) pos used middle =
      Run.rowFrom start ctx (rest.map fun p => G.run input fuel p) pos used middle := by
  induction rest generalizing pos middle used with
  | nil => rfl
  | cons p rest ih =>
      refine Eval.bind_congr (hparts p rest pos middle hat) fun first after h => ?_
      cases first with
      | failure e => rfl
      | success s => exact Eval.map_congr _ (ih (hat.next h) _)

theorem row_congr {again : Parser S α → Run S T α} {parts : List (Parser S α)} {pos : Nat}
    (hparts : ∀ p rest there middle,
      G.RowAt input fuel pos ctx parts state (p :: rest) there middle →
        again p there (ctx.carried pos there) middle =
          G.run input fuel p there (ctx.carried pos there) middle) :
    Run.row (parts.map again) pos ctx state =
      Run.row (parts.map fun p => G.run input fuel p) pos ctx state := by
  cases parts with
  | nil => rfl
  | cons p rest =>
      have hp := hparts p rest pos state .start
      rw [Context.carried, if_pos rfl] at hp
      refine Eval.bind_congr hp fun first after h => ?_
      cases first with
      | failure e => rfl
      | success s =>
          have hfirst : G.run input fuel p pos (ctx.carried pos pos) state =
              .done (.success s) after := by
            rw [Context.carried, if_pos rfl]
            exact h
          exact Eval.map_congr _ (rowFrom_congr (.next .start hfirst) hparts _)

/-- Every round but the last leaves fewer tokens, so more rounds than tokens are enough. -/
theorem manyFrom_congr {again : Run S T α} {p : Parser S α} {pos : Nat} {middle : State S T}
    (hat : G.ManyAt input fuel p start ctx state pos ∅ middle)
    (hrounds : ∀ pos under middle, G.ManyAt input fuel p start ctx state pos under middle →
      again pos under middle = G.run input fuel p pos under middle)
    (hless : ∀ {pos under middle after} {s : Success α},
      G.ManyAt input fuel p start ctx state pos under middle →
        G.run input fuel p pos under middle = .done (.success s) after → s.pos ≠ pos →
          input.remaining s.pos < input.remaining pos)
    {rounds : Nat} (henough : input.remaining pos < rounds) (more : Nat) :
    Run.manyFrom again (more + rounds) pos middle =
      Run.manyFrom (G.run input fuel p) rounds pos middle := by
  -- The rounds never run out: what remains is less than their number, and stays so.
  induction rounds generalizing pos middle with
  | zero => exact (Nat.not_lt_zero _ henough).elim
  | succ rounds ih =>
      refine Eval.bind_congr (hrounds pos ∅ middle hat) fun first after h => ?_
      cases first with
      | failure e => rfl
      | success s =>
          by_cases hs : s.pos = pos
          · simp only [hs, if_true]
          · simp only [hs, if_false]
            have hfewer := hless hat h hs
            exact Eval.map_congr _ (ih (hat.next h hs) (by omega))

theorem many_congr {again : Run S T α} {p : Parser S α} {pos : Nat}
    (hrounds : ∀ there under middle, G.ManyAt input fuel p pos ctx state there under middle →
      again there under middle = G.run input fuel p there under middle)
    (hless : ∀ {there under middle after} {s : Success α},
      G.ManyAt input fuel p pos ctx state there under middle →
        G.run input fuel p there under middle = .done (.success s) after → s.pos ≠ there →
          input.remaining s.pos < input.remaining there)
    {rounds : Nat} (henough : input.remaining pos ≤ rounds) (more : Nat) :
    Run.many (more + rounds) again pos ctx state =
      Run.many rounds (G.run input fuel p) pos ctx state := by
  refine Eval.bind_congr (hrounds pos ctx state .start) fun first after h => ?_
  cases first with
  | failure e => rfl
  | success s =>
      by_cases hs : s.pos = pos
      · simp only [hs, if_true]
      · simp only [hs, if_false]
        have hfewer := hless .start h hs
        exact Eval.map_congr _
          (manyFrom_congr (ManyAt.start.next h hs) hrounds hless (by omega) more)

end Progress

/-! ## One visit, and whole runs -/

variable [LawfulMemoTable T] {f : Parity → Parity}

/-- A visit with fuel for the tokens that remain comes to the same with more fuel and other
parities, if all that it enters does and the parity of the visit itself does not count. -/
theorem visit_congr {v : Visit S T} (hearly : v.parser.Early)
    (hv : G.OnCourse (.reading input) v) (hfuel : input.remaining v.pos < v.fuel)
    (hparity : f = id ∨ ¬ G.Contested input v) (more : Nat)
    (hentered : ∀ w, G.Enters input v w →
      (G.mapParity f).run input (more + w.fuel) (w.parser.mapParity f) w.pos w.ctx w.state =
        G.visit input w) :
    (G.mapParity f).run input (more + v.fuel) (v.parser.mapParity f) v.pos v.ctx v.state =
      G.visit input v := by
  obtain ⟨parser, fuel, pos, ctx, state⟩ := v
  obtain ⟨fuel, rfl⟩ : ∃ n, fuel = n + 1 := ⟨fuel - 1, by simp only at hfuel; omega⟩
  unfold visit at hentered ⊢
  simp only [← Nat.add_assoc]
  cases parser with
  | unit | fail | literal | token | find | all | eof | scan => rfl
  | custom | count => exact hv.offered.holds.elim
  | delay => exact hearly.elim
  | tryMap g p =>
      simp only [Parser.mapParity, run_tryMap]
      exact Run.tryMap_congr g (hentered _ (.tryMap g p))
  | zipWith g p q =>
      simp only [Parser.mapParity, run_zipWith]
      exact Run.zipWith_congr g (hentered _ (.zipWithLeft g p q)) fun s middle h =>
        hentered _ (.zipWithRight g p q h)
  | bind p g =>
      simp only [Parser.mapParity, run_bind]
      exact Run.bind_congr (hentered _ (.bindFirst p g)) fun s middle h =>
        hentered _ (.bindNext p g h)
  | alt p q =>
      simp only [Parser.mapParity, run_alt]
      exact Run.alt_congr (hentered _ (.altLeft p q)) fun e middle h he =>
        hentered _ (.altRight p q h he)
  | label name p =>
      simp only [Parser.mapParity, run_label]
      exact Run.label_congr name (hentered _ (.label name p))
  | commit p =>
      simp only [Parser.mapParity, run_commit]
      exact Run.commit_congr (hentered _ (.commit p))
  | look p =>
      simp only [Parser.mapParity, run_look]
      exact Run.look_congr (hentered _ (.look p))
  | row count part =>
      have hparts : List.ofFn (fun i => (part i).mapParity f) =
          (List.ofFn part).map (Parser.mapParity f) := List.map_ofFn.symm
      simp only [Parser.mapParity, run_row, hparts, List.map_map]
      exact row_congr fun p rest there middle hat => hentered _ (.row count part hat)
  | many p =>
      simp only [Parser.mapParity, run_many]
      refine many_congr (fun there under middle hat => hentered _ (.many p hat))
        (fun hat hrun hmoved => ?_) (Nat.lt_succ_iff.1 hfuel) more
      -- The rounds read on from where the repetition begins.
      have hround := (hv.enters (.many p hat)).1
      obtain ⟨⟨word, hword⟩, -⟩ := hround.finish hrun
      exact hword.remaining_lt hmoved
  | memo kind parity key p =>
      simp only [Parser.mapParity, run_memo]
      refine Run.memo_congr (fun hmissed hdepth hlimit =>
        hentered _ (.memo parity key p hmissed hdepth hlimit))
        fun hmissed hdepth hlimit e middle s under hbody hlookup hreuse => ?_
      rcases hparity with rfl | hparity
      · rfl
      · exact (hparity (.memo hmissed hdepth hlimit hbody hlookup hreuse)).elim
  | ref rule =>
      simp only [Parser.mapParity, run_ref]
      cases hdefine : G.define rule with
      | none =>
          have hnone : (G.mapParity f).define rule = none := congrArg (Option.map _) hdefine
          simp only [call, hdefine, hnone]
      | some body =>
          have hsome : (G.mapParity f).define rule = some (body.mapParity f) :=
            congrArg (Option.map _) hdefine
          rw [call_rule hdefine, call_rule hsome]
          exact hentered _ (.ref hdefine)

/-- A run in which every visit has fuel for the tokens that remain comes to the same with more fuel,
and also with other parities if the parity of no visit counts. -/
theorem run_congr {root : Visit S T} (hearly : G.Built Parser.Early root.parser)
    (hroot : G.OnCourse (.reading input) root)
    (hfuel : ∀ v, G.Visits input root v → input.remaining v.pos < v.fuel)
    (hparity : f = id ∨ ∀ v, G.Visits input root v → ¬ G.Contested input v) (more : Nat) :
    (G.mapParity f).run input (more + root.fuel) (root.parser.mapParity f) root.pos root.ctx
        root.state = G.visit input root := by
  suffices hall : ∀ v, G.Visits input root v →
      (G.mapParity f).run input (more + v.fuel) (v.parser.mapParity f) v.pos v.ctx v.state =
        G.visit input v from hall root .refl
  refine visit_induction G input fun v ih hvisits => ?_
  exact visit_congr (hearly _ hvisits.uses) (hroot.visits hvisits).1 (hfuel v hvisits)
    (hparity.imp_right fun h => h v hvisits) more fun w henters =>
      ih w henters (hvisits.tail henters)

end Grammar

end LeftRec
