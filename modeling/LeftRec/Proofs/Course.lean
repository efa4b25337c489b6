import LeftRec.Proofs.Fuel
import LeftRec.Proofs.Reading
import LeftRec.Proofs.Table
import LeftRec.Proofs.Usage

/-!
# Courses — where runs lead

A course says from which positions runs are considered and where they may lead from there.  Whatever
the course, runs of the library's parsers keep to it: reading tokens does, and what is found in the
table does as long as all that is stored does.  Both "a run reads on from a boundary" and "a run
never goes back" are courses.
-/

namespace LeftRec

variable {S : Signature} {T : Type → Type} {α β γ : Type}

/-! ## Outcomes -/

section OutcomePositions

variable (o : Outcome α)

@[simp]
theorem Outcome.pos_success (s : Success α) : (Outcome.success s).pos = s.pos := rfl

@[simp]
theorem Outcome.pos_failure (e : Failure) : (Outcome.failure e : Outcome α).pos = e.pos := rfl

@[simp]
theorem Outcome.pos_map (f : α → β) : (o.map f).pos = o.pos := by
  cases o <;> rfl

@[simp]
theorem Outcome.pos_withUsed (used : Used) : (o.withUsed used).pos = o.pos := by
  cases o <;> rfl

@[simp]
theorem Outcome.pos_after (start : Nat) (used : Used) : (o.after start used).pos = o.pos :=
  o.pos_withUsed _

theorem Outcome.pos_mapFailure {f : Failure → Failure} (hf : ∀ e, (f e).pos = e.pos) :
    (o.mapFailure f).pos = o.pos := by
  cases o with
  | success s => rfl
  | failure e => exact hf e

end OutcomePositions

/-- Two failures are reported where one of them was. -/
theorem Failure.pos_merge (first second : Failure) :
    (first.merge second).pos = first.pos ∨ (first.merge second).pos = second.pos := by
  simp only [Failure.merge]
  split
  · exact .inl rfl
  · split
    · exact .inr rfl
    · split
      · exact .inl rfl
      · exact .inr rfl

/-! ## Courses -/

/-- A way through the input, on which staying, going on and reading tokens lead. -/
structure Course {τ : Type} (input : Input τ) where
  starts : Nat → Prop
  leads : Nat → Nat → Prop
  here : ∀ pos, leads pos pos
  trans : ∀ {pos middle stop}, leads pos middle → leads middle stop → leads pos stop
  follow : ∀ {pos stop}, starts pos → leads pos stop → starts stop
  of_reads : ∀ {pos word stop}, input.Reads pos word stop → leads pos stop
  to_end : ∀ {pos}, starts pos → leads pos (max input.extent pos)

/-- From a boundary, read on. -/
def Course.reading {τ : Type} (input : Input τ) : Course input where
  starts := input.Boundary
  leads pos stop := ∃ word, input.Reads pos word stop
  here pos := ⟨[], .nil pos⟩
  trans := fun ⟨_, h⟩ ⟨_, h'⟩ => ⟨_, h.append h'⟩
  follow := fun hpos ⟨_, h⟩ => h.boundary hpos
  of_reads h := ⟨_, h⟩
  to_end {pos} hpos := by
    -- A boundary never lies behind the end, so nothing is skipped.
    rw [Nat.max_eq_left hpos.le_extent]
    exact ⟨_, Input.reads_rest hpos⟩

/-- From anywhere, never go back. -/
def Course.ahead {τ : Type} (input : Input τ) : Course input where
  starts _ := True
  leads pos stop := pos ≤ stop
  here := Nat.le_refl
  trans := Nat.le_trans
  follow _ _ := trivial
  of_reads h := h.le
  to_end _ := Nat.le_max_right _ _

/-- The outcome's position lies on the course from `pos`. -/
def Outcome.Along {τ : Type} {input : Input τ} (course : Course input) (pos : Nat)
    (o : Outcome α) : Prop :=
  course.leads pos o.pos

namespace Outcome.Along

variable {τ : Type} {input : Input τ} {course : Course input} {pos : Nat} {o : Outcome α}

theorem here (course : Course input) (h : o.pos = pos) : o.Along course pos := by
  unfold Along
  rw [h]
  exact course.here pos

theorem trans {first : Outcome β} (hfirst : first.Along course pos)
    (ho : o.Along course first.pos) : o.Along course pos :=
  Course.trans course hfirst ho

theorem congr {first : Outcome β} (hfirst : first.Along course pos) (h : o.pos = first.pos) :
    o.Along course pos := by
  unfold Along
  rw [h]
  exact hfirst

theorem starts (h : o.Along course pos) (hpos : course.starts pos) : course.starts o.pos :=
  course.follow hpos h

end Outcome.Along

/-! ## Runs -/

variable [MemoTable T]

/-- All that is stored lies on the course from its own position. -/
def State.Along {input : Input S.Token} (course : Course input) (state : State S T) : Prop :=
  ∀ kind key pos o under, state.lookup kind key pos = some (o, under) → o.Along course pos

theorem State.NoEntries.along {input : Input S.Token} {state : State S T} (h : state.NoEntries)
    (course : Course input) : state.Along course := by
  intro kind key pos o under hlookup
  rw [h kind key pos] at hlookup
  cases hlookup

/-- Whether a state is on a course depends on its table only. -/
theorem State.Along.of_memo {input : Input S.Token} {course : Course input}
    {state next : State S T} (h : state.Along course) (hmemo : next.memo = state.memo) :
    next.Along course := by
  intro kind key pos o under hlookup
  rw [State.lookup, hmemo] at hlookup
  exact h kind key pos o under hlookup

namespace Run

/-- The run keeps to the course, and so does all that it stores. -/
def Along {input : Input S.Token} (course : Course input) (p : Run S T α) : Prop :=
  ∀ ⦃pos ctx state o after⦄, course.starts pos → state.Along course →
    p pos ctx state = .done o after → o.Along course pos ∧ after.Along course

variable {input : Input S.Token} {course : Course input}

/-! ### Terminals -/

theorem along_pure {f : Nat → Outcome α}
    (h : ∀ pos, course.starts pos → (f pos).Along course pos) :
    Along (T := T) course fun pos _ => pure (f pos) := by
  intro pos ctx state o after hpos hstate hrun
  obtain ⟨rfl, rfl⟩ := Eval.pure_eq_done.1 hrun
  exact ⟨h pos hpos, hstate⟩

/-- What is found lies on the course if it ends where reading leads. -/
theorem leads_found {name : String} {pos : Nat} {what : Option (α × Nat)}
    (h : ∀ value stop, what = some (value, stop) → ∃ word, input.Reads pos word stop) :
    (found name pos what).Along course pos := by
  cases what with
  | none => exact .here course rfl
  | some pair =>
      obtain ⟨word, hword⟩ := h pair.1 pair.2 rfl
      exact course.of_reads hword

theorem along_literal (tokens : List S.Token) (name : String) :
    Along (T := T) course (literal input tokens name) := by
  refine along_pure fun pos _ => leads_found fun value stop h => ?_
  split at h
  next hstarts =>
    obtain ⟨rfl, rfl⟩ := Prod.mk.inj (Option.some.inj h)
    exact ⟨_, Input.reads_of_startsWith hstarts⟩
  next => cases h

theorem along_token (test : S.Token → Bool) (name : String) :
    Along (T := T) course (token input test name) := by
  refine along_pure fun pos _ => leads_found fun value stop h => ?_
  exact ⟨_, Input.reads_of_next? (Option.filter_eq_some_iff.1 h).1⟩

theorem firstToken_eq_some {width : S.Token → Nat} {test : S.Token → Bool} {pos stop : Nat}
    {tokens : List S.Token} {t : S.Token} (h : firstToken width test pos tokens = some (t, stop)) :
    ∃ word tail, tokens = word ++ tail ∧ stop = pos + Input.span width word := by
  induction tokens generalizing pos with
  | nil => cases h
  | cons head rest ih =>
      simp only [firstToken] at h
      split at h
      · obtain ⟨rfl, rfl⟩ := Prod.mk.inj (Option.some.inj h)
        exact ⟨[head], rest, rfl, by simp [Input.span]⟩
      · obtain ⟨word, tail, rfl, rfl⟩ := ih h
        exact ⟨head :: word, tail, rfl, by simp [Input.span, Nat.add_assoc]⟩

theorem along_find (test : S.Token → Bool) (name : String) :
    Along (T := T) course (find input test name) := by
  refine along_pure fun pos _ => leads_found fun value stop h => ?_
  obtain ⟨word, tail, hrest, rfl⟩ := firstToken_eq_some h
  exact ⟨word, Input.reads_of_rest hrest⟩

theorem along_all : Along (T := T) course (all input) :=
  along_pure fun _ hpos => course.to_end hpos

theorem along_eof : Along (T := T) course (eof input) := by
  refine along_pure fun pos _ => leads_found fun value stop h => ?_
  split at h
  · obtain ⟨-, rfl⟩ := Prod.mk.inj (Option.some.inj h)
    exact ⟨[], .nil _⟩
  · cases h

theorem along_scan (f : List S.Token → Option (Nat × α)) (name : String) :
    Along (T := T) course (scan input f name) := by
  refine along_pure fun pos _ => leads_found fun value stop h => ?_
  obtain ⟨⟨count, value'⟩, -, heq⟩ := Option.map_eq_some_iff.1 h
  obtain ⟨-, rfl⟩ := Prod.mk.inj heq
  exact ⟨_, Input.reads_take pos count⟩

/-! ### Sequences -/

variable {p : Run S T α} {q : Run S T β}

/-- A whole ends where its part does, or where it began itself. -/
theorem Along.wraps {finish : Nat → Outcome α → Outcome β → Prop} {whole : Run S T β}
    (hp : p.Along course) (hwhole : Wraps finish p whole)
    (hfinish : ∀ pos first o, finish pos first o → o.pos = first.pos ∨ o.pos = pos) :
    whole.Along course := by
  intro pos ctx state o after hpos hstate hrun
  obtain ⟨first, hfirst, hrelated⟩ := hwhole.1 hrun
  obtain ⟨ho, hafter⟩ := hp hpos hstate hfirst
  rcases hfinish pos first o hrelated with hthere | hhere
  · exact ⟨ho.congr hthere, hafter⟩
  · exact ⟨.here course hhere, hafter⟩

/-- A second part goes on from where the first one ended. -/
theorem Along.chains {join : Success α → Outcome β → Outcome γ} {f : α → Run S T β}
    {whole : Run S T γ} (hp : p.Along course) (hf : ∀ a, (f a).Along course)
    (hwhole : Chains join p f whole) (hjoin : ∀ s o, (join s o).pos = o.pos) :
    whole.Along course := by
  intro pos ctx state o after hpos hstate hrun
  rcases hwhole.1 hrun with ⟨e, hfirst, rfl⟩ | ⟨s, middle, hfirst, second, hsecond, rfl⟩
  · exact hp hpos hstate hfirst
  · obtain ⟨hs, hmiddle⟩ := hp hpos hstate hfirst
    obtain ⟨ho, hafter⟩ := hf s.value (hs.starts hpos) hmiddle hsecond
    have hend : ((join s second).after pos s.used).pos = second.pos := by
      rw [Outcome.pos_after, hjoin]
    exact ⟨(hs.trans ho).congr hend, hafter⟩

theorem Along.tryMap (f : α → Except Fault β) (hp : p.Along course) :
    (Run.tryMap f p).Along course := by
  refine hp.wraps (wraps_tryMap f p) fun pos first o hfinish => .inl ?_
  rcases hfinish with ⟨e, rfl, rfl⟩ | ⟨s, value, rfl, -, rfl⟩
  · rfl
  · rfl

theorem Along.bind {f : α → Run S T β} (hp : p.Along course) (hf : ∀ a, (f a).Along course) :
    (Run.bind p f).Along course :=
  hp.chains hf (chains_bind p f) fun _ _ => rfl

theorem Along.zipWith (f : α → β → γ) (hp : p.Along course) (hq : q.Along course) :
    (Run.zipWith f p q).Along course :=
  hp.chains (fun _ => hq) (chains_zipWith f p q) fun _ o => o.pos_map _

theorem along_rowFrom {parts : List (Run S T α)} (h : ∀ p ∈ parts, Along course p)
    (start : Nat) (ctx : Context) {pos : Nat} {used : Used} {state after : State S T}
    {o : Outcome (List α)} (hpos : course.starts pos) (hstate : state.Along course)
    (hrun : rowFrom start ctx parts pos used state = .done o after) :
    o.Along course pos ∧ after.Along course := by
  induction parts generalizing pos used state o with
  | nil =>
      obtain ⟨rfl, rfl⟩ := Eval.pure_eq_done.1 hrun
      exact ⟨.here course rfl, hstate⟩
  | cons p rest ih =>
      have hp := h p List.mem_cons_self
      rcases rowFrom_cons_eq_done.1 hrun with
        ⟨e, hfirst, rfl⟩ | ⟨s, middle, hfirst, others, hrest, rfl⟩
      · obtain ⟨ho, hafter⟩ := hp hpos hstate hfirst
        exact ⟨ho.congr (by simp), hafter⟩
      · obtain ⟨hs, hmiddle⟩ := hp hpos hstate hfirst
        obtain ⟨ho, hafter⟩ := ih (fun q hq => h q (List.mem_cons_of_mem _ hq))
          (hs.starts hpos) hmiddle hrest
        exact ⟨(hs.trans ho).congr (by simp), hafter⟩

theorem along_row {parts : List (Run S T α)} (h : ∀ p ∈ parts, Along course p) :
    (row parts).Along course := by
  cases parts with
  | nil => exact along_pure fun pos _ => .here course rfl
  | cons p rest =>
      intro pos ctx state o after hpos hstate hrun
      have hp := h p List.mem_cons_self
      rcases row_cons_eq_done.1 hrun with
        ⟨e, hfirst, rfl⟩ | ⟨s, middle, hfirst, others, hrest, rfl⟩
      · exact hp hpos hstate hfirst
      · obtain ⟨hs, hmiddle⟩ := hp hpos hstate hfirst
        obtain ⟨ho, hafter⟩ := along_rowFrom (fun q hq => h q (List.mem_cons_of_mem _ hq)) _ _
          (hs.starts hpos) hmiddle hrest
        exact ⟨(hs.trans ho).congr (by simp), hafter⟩

/-! ### Choice -/

theorem Along.alt {q : Run S T α} (hp : p.Along course) (hq : q.Along course) :
    (Run.alt p q).Along course := by
  intro pos ctx state o after hpos hstate hrun
  rcases alt_eq_done.1 hrun with
    ⟨s, hfirst, rfl⟩ | ⟨e, hfirst, -, rfl⟩ | ⟨e, middle, hfirst, -, hsecond⟩
  · exact hp hpos hstate hfirst
  · exact hp hpos hstate hfirst
  · obtain ⟨he, hmiddle⟩ := hp hpos hstate hfirst
    rcases hsecond with ⟨s, hsecond, rfl⟩ | ⟨second, hsecond, rfl⟩
    · obtain ⟨ho, hafter⟩ := hq hpos hmiddle hsecond
      exact ⟨ho.congr rfl, hafter⟩
    · obtain ⟨ho, hafter⟩ := hq hpos hmiddle hsecond
      -- The merged failure is reported where one of the two was.
      rcases e.pos_merge second with hmerge | hmerge
      · exact ⟨he.congr hmerge, hafter⟩
      · exact ⟨ho.congr hmerge, hafter⟩

theorem pos_relabel (name : String) (pos : Nat) (e : Failure) :
    (relabel name pos e).pos = e.pos := by
  unfold relabel
  split
  · rfl
  · rfl

theorem Along.label (name : String) (hp : p.Along course) : (Run.label name p).Along course := by
  refine hp.wraps (wraps_label name p) fun pos first o hfinish => .inl ?_
  rw [hfinish]
  exact first.pos_mapFailure (pos_relabel name pos)

theorem Along.commit (hp : p.Along course) : (Run.commit p).Along course := by
  refine hp.wraps (wraps_commit p) fun pos first o hfinish => .inl ?_
  rw [hfinish]
  exact first.pos_mapFailure fun _ => rfl

theorem Along.look (hp : p.Along course) : (Run.look p).Along course := by
  refine hp.wraps (wraps_look p) fun pos first o hfinish => .inr ?_
  rw [hfinish]
  rfl

/-! ### Repetition -/

theorem along_manyFrom (hp : p.Along course) {rounds pos : Nat} {state after : State S T}
    {o : Outcome (List α)} (hpos : course.starts pos) (hstate : state.Along course)
    (hrun : manyFrom p rounds pos state = .done o after) :
    o.Along course pos ∧ after.Along course := by
  induction rounds generalizing pos state o with
  | zero => cases hrun
  | succ rounds ih =>
      rcases manyFrom_succ_eq_done.1 hrun with
        ⟨e, hfirst, rfl⟩ | ⟨s, hfirst, -, rfl⟩ | ⟨s, middle, hfirst, -, others, hrest, rfl⟩
      · obtain ⟨he, hafter⟩ := hp hpos hstate hfirst
        refine ⟨?_, hafter⟩
        split
        · exact he
        · exact .here course rfl
      · exact ⟨.here course rfl, (hp hpos hstate hfirst).2⟩
      · obtain ⟨hs, hmiddle⟩ := hp hpos hstate hfirst
        obtain ⟨ho, hafter⟩ := ih (hs.starts hpos) hmiddle hrest
        exact ⟨(hs.trans ho).congr (by simp), hafter⟩

theorem Along.many (rounds : Nat) (hp : p.Along course) : (Run.many rounds p).Along course := by
  intro pos ctx state o after hpos hstate hrun
  rcases many_eq_done.1 hrun with
    ⟨e, hfirst, rfl⟩ | ⟨s, hfirst, -, rfl⟩ | ⟨s, middle, hfirst, -, others, hrest, rfl⟩
  · obtain ⟨he, hafter⟩ := hp hpos hstate hfirst
    refine ⟨?_, hafter⟩
    split
    · exact he
    · exact .here course rfl
  · exact ⟨.here course rfl, (hp hpos hstate hfirst).2⟩
  · obtain ⟨hs, hmiddle⟩ := hp hpos hstate hfirst
    obtain ⟨ho, hafter⟩ := along_manyFrom hp (hs.starts hpos) hmiddle hrest
    exact ⟨(hs.trans ho).congr (by simp), hafter⟩

/-! ### Memoization -/

theorem Along.memo [LawfulMemoTable T] (kind : S.Kind) (parity : Parity) (key : Key)
    {body : Run S T (S.Value kind)} (hbody : body.Along course) :
    (Run.memo input kind parity key body).Along course := by
  intro pos ctx state o after hpos hstate hrun
  rcases memo_eq_done.1 hrun with
    ⟨under, hlookup, -, rfl⟩ | ⟨-, -, rfl, rfl⟩ | ⟨-, -, hrefresh⟩
  · exact ⟨hstate kind key pos o under hlookup, hstate⟩
  · exact ⟨.here course rfl, hstate⟩
  · obtain ⟨-, fresh, middle, hfresh, hkeep⟩ := refresh_eq_done.1 hrefresh
    obtain ⟨hfresh, hmiddle⟩ := hbody hpos hstate hfresh
    obtain ⟨rfl, rfl⟩ := Prod.mk.inj hkeep
    -- What is kept is the fresh outcome, or a success that the body left in the table.
    have hkept : (keep input kind parity key pos ctx fresh middle).1.Along course pos := by
      rcases keep_fst_cases input parity key pos ctx fresh middle with
        hkept | ⟨s, under, hlookup, hkept⟩
      · rw [hkept]
        exact hfresh
      · rw [hkept]
        exact hmiddle kind key pos _ under hlookup
    -- Storing changes one slot, and what is stored there goes on.
    refine ⟨hkept, fun kind' key' pos' o' under' hlookup => ?_⟩
    rcases lookup_keep_cases hlookup with ⟨rfl, rfl, rfl, rfl, -⟩ | hlookup
    · exact hkept
    · exact hmiddle kind' key' pos' o' under' hlookup

end Run

/-! ## Parsers and grammars -/

variable [LawfulMemoTable T] {input : Input S.Token} {course : Course input} {G : Grammar S}

theorem Parser.along_eval {rounds : Nat} {call : Caller S T} {p : Parser S α}
    (hp : G.Built Offered p)
    (hrule : ∀ rule, G.Built Offered (.ref rule : Parser S _) →
      (call rule none).Along course)
    (hcopy : ∀ cell rule, G.Built Offered (.delay cell rule : Parser S _) →
      (call rule (some cell)).Along course) :
    (p.eval input rounds call).Along course := by
  induction p with
  | unit | fail => exact Run.along_pure fun _ _ => .here course rfl
  | literal tokens name => exact Run.along_literal tokens name
  | token test name => exact Run.along_token test name
  | find test name => exact Run.along_find test name
  | all => exact Run.along_all
  | eof => exact Run.along_eof
  | scan f name => exact Run.along_scan f name
  | custom f => exact hp.holds.elim
  | count what p ih => exact hp.holds.elim
  | tryMap f p ih => exact (ih (hp.part (.tryMap f p))).tryMap f
  | zipWith f p q ihp ihq =>
      exact (ihp (hp.part (.zipWithLeft f p q))).zipWith f (ihq (hp.part (.zipWithRight f p q)))
  | bind p f ihp ihf =>
      exact (ihp (hp.part (.bindFirst p f))).bind fun a => ihf a (hp.part (.bindNext p f a))
  | alt p q ihp ihq => exact (ihp (hp.part (.altLeft p q))).alt (ihq (hp.part (.altRight p q)))
  | label name p ih => exact (ih (hp.part (.label name p))).label name
  | commit p ih => exact (ih (hp.part (.commit p))).commit
  | look p ih => exact (ih (hp.part (.look p))).look
  | row count part ih =>
      exact Run.along_row (List.forall_mem_ofFn_iff.2 fun i => ih i (hp.part (.row count part i)))
  | many p ih => exact (ih (hp.part (.many p))).many rounds
  | memo kind parity key p ih => exact (ih (hp.part (.memo kind parity key p))).memo kind parity key
  | ref rule => exact hrule rule hp
  | delay cell rule => exact hcopy cell rule hp

/-- Runs of parsers that the library offers keep to any course. -/
theorem Grammar.along_run {p : Parser S α} (hp : G.Built Parser.Offered p) (fuel : Nat) :
    (G.run input fuel p : Run S T α).Along course := by
  induction fuel generalizing α with
  | zero =>
      intro pos ctx state o after hpos hstate hrun
      cases hrun
  | succ fuel ih =>
      rw [Grammar.run_succ]
      refine Parser.along_eval hp (fun rule hp => ?_) fun cell rule hp => ?_
      · intro pos ctx state o after hpos hstate hrun
        obtain ⟨body, hdefine, hbody⟩ := Grammar.call_rule_eq_done.1 hrun
        exact ih (hp.rule hdefine) hpos hstate hbody
      · intro pos ctx state o after hpos hstate hrun
        obtain ⟨body, next, hfill, hbody⟩ := Grammar.call_copy_eq_done.1 hrun
        obtain ⟨⟨workshop, hcopy⟩, hmemo⟩ := Grammar.fill_eq_ok hfill
        exact ih (hp.copy hcopy) hpos (hstate.of_memo hmemo) hbody

end LeftRec
