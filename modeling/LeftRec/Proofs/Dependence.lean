import LeftRec.Proofs.Binding
import LeftRec.Proofs.Erasure
import LeftRec.Proofs.Yields

/-!
# Dependence — which keys a run depends on

A run asks its context whether a rule is to be curtailed and whether a stored outcome may be reused.
What it learns there hangs on the rules that are curtailed in its course: it would have run in the
same way under every context that tracks the same for those and no more for any other rule.

The used set of its outcome never names another rule.  But it need not name all of those, since a
sequence that consumed something forgets what its second part used, even if that part began where
the whole did.  So two contexts may agree on a used set and still lead to different outcomes.
-/

namespace LeftRec

variable {S : Signature} {T : Type → Type} {α β γ : Type} {keys : Key → Prop}

/-! ## Outcomes and states within some keys -/

/-- All keys that the outcome used are among the given ones. -/
def Outcome.UsesOnly (keys : Key → Prop) (o : Outcome α) : Prop :=
  ∀ key ∈ o.used, keys key

namespace Outcome.UsesOnly

variable {o : Outcome α}

theorem of_empty (h : o.used = ∅) : o.UsesOnly keys := by
  intro key hkey
  rw [h] at hkey
  exact (Used.not_mem_empty key hkey).elim

theorem congr {first : Outcome β} (h : first.UsesOnly keys) (hused : o.used = first.used) :
    o.UsesOnly keys := by
  intro key hkey
  exact h key (hused ▸ hkey)

theorem after (h : o.UsesOnly keys) {used : Used} (hused : ∀ key ∈ used, keys key) (start : Nat) :
    (o.after start used).UsesOnly keys := by
  intro key hkey
  rw [Outcome.after, Outcome.used_withUsed] at hkey
  rcases Used.of_mem_sequenced hkey with hfirst | hsecond
  · exact hused key hfirst
  · exact h key hsecond

end Outcome.UsesOnly

variable [MemoTable T]

/-- All that is stored used the given keys only, and its contexts track no other. -/
def State.Limited (keys : Key → Prop) (state : State S T) : Prop :=
  ∀ kind key pos o under, state.lookup kind key pos = some (o, under) →
    o.UsesOnly keys ∧ ∀ entry ∈ under.depths, keys entry.1

namespace State.Limited

variable {state next : State S T}

theorem of_noEntries (h : state.NoEntries) (keys : Key → Prop) : state.Limited keys := by
  intro kind key pos o under hlookup
  rw [h kind key pos] at hlookup
  cases hlookup

theorem of_memo (h : state.Limited keys) (hmemo : next.memo = state.memo) : next.Limited keys := by
  intro kind key pos o under hlookup
  rw [State.lookup, hmemo] at hlookup
  exact h kind key pos o under hlookup

end State.Limited

/-! ## Memoized rules under two contexts -/

namespace Run

variable {input : Input S.Token} {kind : S.Kind} {parity : Parity} {key : Key} {pos : Nat}
variable {ctx ctx' : Context} {state middle : State S T} {fresh : Outcome (S.Value kind)}

theorem missed_under (h : ctx'.Under keys ctx) (hstate : state.Limited keys)
    (hmissed : Missed state kind key pos ctx) : Missed state kind key pos ctx' := by
  intro o under hlookup
  rw [h.canReuse_eq (hstate kind key pos o under hlookup).2]
  exact hmissed o under hlookup

theorem preferred_under (h : ctx'.Under keys ctx) (parity : Parity) (remaining : Nat)
    {stored : Option (Outcome α × Context)}
    (hstored : ∀ o under, stored = some (o, under) → ∀ entry ∈ under.depths, keys entry.1)
    (fresh : Outcome α) :
    preferred parity remaining ctx' fresh stored = preferred parity remaining ctx fresh stored := by
  cases stored with
  | none => cases fresh <;> rfl
  | some pair =>
      obtain ⟨o, under⟩ := pair
      have hreuse := h.canReuse_eq (hstored o under rfl)
      cases fresh <;> cases o <;> simp only [preferred, hreuse]

variable (input parity key pos ctx) in
/-- What a rule keeps used the given keys only, if the fresh outcome and the table did. -/
theorem usesOnly_keep (hfresh : fresh.UsesOnly keys) (hmiddle : middle.Limited keys) :
    (keep input kind parity key pos ctx fresh middle).1.UsesOnly keys := by
  rcases keep_fst_cases input parity key pos ctx fresh middle with
    hkept | ⟨s, under, hlookup, hkept⟩
  · rw [hkept]
    exact hfresh
  · rw [hkept]
    exact (hmiddle kind key pos _ under hlookup).1

theorem limited_keep [LawfulMemoTable T] (hfresh : fresh.UsesOnly keys)
    (hmiddle : middle.Limited keys) :
    (keep input kind parity key pos ctx fresh middle).2.Limited keys := by
  have hkept := usesOnly_keep input parity key pos ctx hfresh hmiddle
  intro kind' key' pos' o' under' hlookup
  rcases lookup_keep_cases hlookup with ⟨rfl, rfl, rfl, rfl, rfl⟩ | hlookup
  · exact ⟨hkept, fun entry hentry => hkept entry.1 (Context.mem_of_mem_pruned hentry)⟩
  · exact hmiddle kind' key' pos' o' under' hlookup

theorem keep_under (h : ctx'.Under keys ctx) (hfresh : fresh.UsesOnly keys)
    (hmiddle : middle.Limited keys) :
    keep input kind parity key pos ctx' fresh middle =
      keep input kind parity key pos ctx fresh middle := by
  have hpreferred := preferred_under h parity (input.remaining pos)
    (fun o under hlookup => (hmiddle kind key pos o under hlookup).2) fresh
  have hkept := usesOnly_keep input parity key pos ctx hfresh hmiddle
  have hpruned := h.pruned_eq hkept
  simp only [keep, hpreferred] at hpruned ⊢
  rw [hpruned]

end Run

/-! ## Curtailed rules -/

namespace Grammar

variable (G : Grammar S) (input : Input S.Token)

/-- In the course of the visit the rule of the key is curtailed. -/
def Curtails (v : Visit S T) (key : Key) : Prop :=
  ∃ (kind : S.Kind) (parity : Parity) (body : Parser S (S.Value kind)) (fuel pos : Nat)
    (ctx : Context) (state : State S T),
    G.Visits input v ⟨.memo kind parity key body, fuel, pos, ctx, state⟩ ∧
      Run.Missed state kind key pos ctx ∧ Run.depthBound (input.remaining pos) < ctx.depth key

/-- Under a context that tracks the same for the given keys, and no more for any other, a run comes
to the same outcome and state, provided that it curtails no other rule. -/
def DependsOnly (T : Type → Type) [MemoTable T] (keys : Key → Prop) (fuel : Nat) (p : Parser S α) :
    Prop :=
  ∀ ⦃pos ctx ctx'⦄ ⦃state : State S T⦄ ⦃o after⦄,
    (∀ key, G.Curtails input ⟨p, fuel, pos, ctx, state⟩ key → keys key) → state.Limited keys →
      ctx'.Under keys ctx → G.run input fuel p pos ctx state = .done o after →
        o.UsesOnly keys ∧ after.Limited keys ∧ G.run input fuel p pos ctx' state = .done o after

variable {G input}

theorem Curtails.of_enters {v w : Visit S T} {key : Key} (h : G.Curtails input w key)
    (henters : G.Enters input v w) : G.Curtails input v key := by
  obtain ⟨kind, parity, body, fuel, pos, ctx, state, hvisits, hbound⟩ := h
  exact ⟨kind, parity, body, fuel, pos, ctx, state, hvisits.head henters, hbound⟩

/-- Only rules that the parser uses are curtailed. -/
theorem Curtails.uses {v : Visit S T} {key : Key} (h : G.Curtails input v key) :
    ∃ node : MemoNode S, G.Uses anyCopy v.parser node.parser ∧ node.key = key := by
  obtain ⟨kind, parity, body, fuel, pos, ctx, state, hvisits, -⟩ := h
  exact ⟨⟨kind, parity, key, body⟩, Visits.uses hvisits, rfl⟩

namespace DependsOnly

variable {fuel : Nat} {p : Parser S α} {q : Parser S β}

theorem of_pure {f : Nat → Outcome α}
    (hrun : (G.run input fuel p : Run S T α) = fun pos _ => pure (f pos))
    (hused : ∀ pos, (f pos).used = ∅) : G.DependsOnly input T keys fuel p := by
  intro pos ctx ctx' state o after _ hstate _ h
  rw [hrun] at h ⊢
  obtain ⟨rfl, rfl⟩ := Eval.pure_eq_done.1 h
  exact ⟨.of_empty (hused pos), hstate, rfl⟩

/-! ### Parts and sequences -/

theorem single {finish : Nat → Outcome α → Outcome β → Prop}
    (hp : G.DependsOnly input T keys fuel p)
    (hwhole : Run.Wraps finish (G.run input fuel p : Run S T α) (G.run input fuel q))
    (henters : ∀ pos ctx (state : State S T),
      G.Enters input ⟨q, fuel, pos, ctx, state⟩ ⟨p, fuel, pos, ctx, state⟩)
    (hused : ∀ pos first o, finish pos first o → o.used = first.used) :
    G.DependsOnly input T keys fuel q := by
  intro pos ctx ctx' state o after hcurtails hstate hctx h
  obtain ⟨first, hfirst, hfinish⟩ := hwhole.1 h
  obtain ⟨huses, hafter, hrun⟩ :=
    hp (fun key hkey => hcurtails key (hkey.of_enters (henters pos ctx state))) hstate hctx hfirst
  exact ⟨huses.congr (hused pos first o hfinish), hafter, hwhole.2 ⟨first, hrun, hfinish⟩⟩

theorem chain {join : Success α → Outcome β → Outcome γ} {f : α → Parser S β}
    {whole : Parser S γ} (hp : G.DependsOnly input T keys fuel p)
    (hf : ∀ a, G.DependsOnly input T keys fuel (f a))
    (hwhole : Run.Chains join (G.run input fuel p : Run S T α) (fun a => G.run input fuel (f a))
      (G.run input fuel whole))
    (hfirst : ∀ pos ctx (state : State S T),
      G.Enters input ⟨whole, fuel, pos, ctx, state⟩ ⟨p, fuel, pos, ctx, state⟩)
    (hnext : ∀ pos ctx (state : State S T) s middle,
      G.run input fuel p pos ctx state = .done (.success s) middle →
        G.Enters input ⟨whole, fuel, pos, ctx, state⟩
          ⟨f s.value, fuel, s.pos, ctx.carried pos s.pos, middle⟩)
    (hjoin : ∀ s o, (join s o).used = o.used) : G.DependsOnly input T keys fuel whole := by
  intro pos ctx ctx' state o after hcurtails hstate hctx h
  have hpart := fun key hkey => hcurtails key (Curtails.of_enters hkey (hfirst pos ctx state))
  rcases hwhole.1 h with ⟨e, hrun, rfl⟩ | ⟨s, middle, hrun, second, hsecond, rfl⟩
  · obtain ⟨huses, hafter, hrun'⟩ := hp hpart hstate hctx hrun
    exact ⟨huses.congr rfl, hafter, hwhole.2 (.inl ⟨e, hrun', rfl⟩)⟩
  · obtain ⟨huses, hmiddle, hrun'⟩ := hp hpart hstate hctx hrun
    have hpart' := fun key hkey =>
      hcurtails key (Curtails.of_enters hkey (hnext pos ctx state s middle hrun))
    obtain ⟨huses', hafter, hsecond'⟩ :=
      hf s.value hpart' hmiddle (hctx.carried pos s.pos) hsecond
    refine ⟨(huses'.congr (hjoin s second)).after huses pos, hafter, ?_⟩
    exact hwhole.2 (.inr ⟨s, middle, hrun', second, hsecond', rfl⟩)

theorem tryMap (f : α → Except Fault β) (hp : G.DependsOnly input T keys fuel p) :
    G.DependsOnly input T keys fuel (.tryMap f p) := by
  refine hp.single (by rw [run_tryMap]; exact Run.wraps_tryMap f _) (fun _ _ _ => .tryMap f p) ?_
  rintro pos first o (⟨e, rfl, rfl⟩ | ⟨s, value, rfl, -, rfl⟩)
  · rfl
  · rfl

theorem zipWith (f : α → β → γ) (hp : G.DependsOnly input T keys fuel p)
    (hq : G.DependsOnly input T keys fuel q) :
    G.DependsOnly input T keys fuel (.zipWith f p q) :=
  hp.chain (fun _ => hq) (by rw [run_zipWith]; exact Run.chains_zipWith f _ _)
    (fun _ _ _ => .zipWithLeft f p q) (fun _ _ _ _ _ hrun => .zipWithRight f p q hrun)
    fun _ o => o.used_map _

theorem bind {f : α → Parser S β} (hp : G.DependsOnly input T keys fuel p)
    (hf : ∀ a, G.DependsOnly input T keys fuel (f a)) :
    G.DependsOnly input T keys fuel (.bind p f) :=
  hp.chain hf (by rw [run_bind]; exact Run.chains_bind _ _) (fun _ _ _ => .bindFirst p f)
    (fun _ _ _ _ _ hrun => .bindNext p f hrun) fun _ _ => rfl

/-! ### Choice -/

theorem alt {q : Parser S α} (hp : G.DependsOnly input T keys fuel p)
    (hq : G.DependsOnly input T keys fuel q) : G.DependsOnly input T keys fuel (.alt p q) := by
  intro pos ctx ctx' state o after hcurtails hstate hctx h
  rw [run_alt] at h ⊢
  have hleft := fun key hkey => hcurtails key (Curtails.of_enters hkey (.altLeft p q))
  rcases Run.alt_eq_done.1 h with
    ⟨s, hfirst, rfl⟩ | ⟨e, hfirst, he, rfl⟩ | ⟨e, middle, hfirst, he, hsecond⟩
  · obtain ⟨huses, hafter, hrun⟩ := hp hleft hstate hctx hfirst
    exact ⟨huses, hafter, Run.alt_eq_done.2 (.inl ⟨s, hrun, rfl⟩)⟩
  · obtain ⟨huses, hafter, hrun⟩ := hp hleft hstate hctx hfirst
    exact ⟨huses, hafter, Run.alt_eq_done.2 (.inr (.inl ⟨e, hrun, he, rfl⟩))⟩
  · obtain ⟨huses, hmiddle, hrun⟩ := hp hleft hstate hctx hfirst
    have hright := fun key hkey => hcurtails key (Curtails.of_enters hkey (.altRight p q hfirst he))
    -- Either way the used set is the union of those of both branches.
    have hunion (used : Used) (hused : ∀ key ∈ used, keys key) :
        ∀ key ∈ e.used.union used, keys key := by
      intro key hkey
      rcases Used.mem_union.1 hkey with hkey | hkey
      · exact huses key hkey
      · exact hused key hkey
    rcases hsecond with ⟨s, hsecond, rfl⟩ | ⟨second, hsecond, rfl⟩
    · obtain ⟨huses', hafter, hrun'⟩ := hq hright hmiddle hctx hsecond
      refine ⟨hunion s.used huses', hafter, Run.alt_eq_done.2 (.inr (.inr ?_))⟩
      exact ⟨e, middle, hrun, he, .inl ⟨s, hrun', rfl⟩⟩
    · obtain ⟨huses', hafter, hrun'⟩ := hq hright hmiddle hctx hsecond
      have hmerge : (Outcome.failure (e.merge second) : Outcome α).UsesOnly keys := by
        intro key hkey
        exact hunion second.used huses' key (Failure.used_merge e second ▸ hkey)
      refine ⟨hmerge, hafter, Run.alt_eq_done.2 (.inr (.inr ?_))⟩
      exact ⟨e, middle, hrun, he, .inr ⟨second, hrun', rfl⟩⟩

theorem label (name : String) (hp : G.DependsOnly input T keys fuel p) :
    G.DependsOnly input T keys fuel (.label name p) := by
  refine hp.single (by rw [run_label]; exact Run.wraps_label name _) (fun _ _ _ => .label name p) ?_
  rintro pos first o rfl
  exact first.used_mapFailure (Run.used_relabel name pos)

theorem commit (hp : G.DependsOnly input T keys fuel p) :
    G.DependsOnly input T keys fuel (.commit p) := by
  refine hp.single (by rw [run_commit]; exact Run.wraps_commit _) (fun _ _ _ => .commit p) ?_
  rintro pos first o rfl
  exact first.used_mapFailure fun _ => rfl

theorem look (hp : G.DependsOnly input T keys fuel p) :
    G.DependsOnly input T keys fuel (.look p) := by
  refine hp.single (by rw [run_look]; exact Run.wraps_look _) (fun _ _ _ => .look p) ?_
  rintro pos first o rfl
  rfl

/-! ### Rows -/

/-- The parts of a row that are left, under either context. -/
theorem rowFrom {parts rest : List (Parser S α)} {start pos : Nat} {ctx ctx' : Context}
    {state middle after : State S T} {used : Used} {o : Outcome (List α)}
    (h : ∀ p ∈ rest, G.DependsOnly input T keys fuel p) (hctx : ctx'.Under keys ctx)
    (hcurtails : ∀ p rest pos middle,
      G.RowAt input fuel start ctx parts state (p :: rest) pos middle →
        ∀ key, G.Curtails input ⟨p, fuel, pos, ctx.carried start pos, middle⟩ key → keys key)
    (hat : G.RowAt input fuel start ctx parts state rest pos middle)
    (hmiddle : middle.Limited keys) (hused : ∀ key ∈ used, keys key)
    (hrun : Run.rowFrom start ctx (rest.map fun p => G.run input fuel p) pos used middle =
      .done o after) :
    o.UsesOnly keys ∧ after.Limited keys ∧
      Run.rowFrom start ctx' (rest.map fun p => G.run input fuel p) pos used middle =
        .done o after := by
  induction rest generalizing pos used middle o with
  | nil =>
      obtain ⟨rfl, rfl⟩ := Eval.pure_eq_done.1 hrun
      exact ⟨hused, hmiddle, rfl⟩
  | cons p rest ih =>
      have hp := h p List.mem_cons_self
      have hpart := hcurtails p rest pos middle hat
      rcases Run.rowFrom_cons_eq_done.1 hrun with
        ⟨e, hfirst, rfl⟩ | ⟨s, next, hfirst, others, hrest, rfl⟩
      · obtain ⟨huses, hafter, hfirst'⟩ := hp hpart hmiddle (hctx.carried start pos) hfirst
        refine ⟨huses.after hused start, hafter, ?_⟩
        exact Run.rowFrom_cons_eq_done.2 (.inl ⟨e, hfirst', rfl⟩)
      · obtain ⟨huses, hnext, hfirst'⟩ := hp hpart hmiddle (hctx.carried start pos) hfirst
        have hused' : ∀ key ∈ Used.sequenced start s.pos used s.used, keys key := by
          intro key hkey
          rcases Used.of_mem_sequenced hkey with hkey | hkey
          · exact hused key hkey
          · exact huses key hkey
        obtain ⟨hothers, hafter, hrest'⟩ := ih (fun q hq => h q (List.mem_cons_of_mem _ hq))
          (hat.next hfirst) hnext hused' hrest
        refine ⟨hothers.congr (others.used_map _), hafter, ?_⟩
        exact Run.rowFrom_cons_eq_done.2 (.inr ⟨s, next, hfirst', others, hrest', rfl⟩)

theorem row {count : Nat} {part : Fin count → Parser S α}
    (h : ∀ i, G.DependsOnly input T keys (fuel + 1) (part i)) :
    G.DependsOnly input T keys (fuel + 1) (.row count part) := by
  intro pos ctx ctx' state o after hcurtails hstate hctx hrun
  have hparts : ∀ p ∈ List.ofFn part, G.DependsOnly input T keys (fuel + 1) p :=
    List.forall_mem_ofFn_iff.2 h
  have hentered : ∀ p rest pos' middle,
      G.RowAt input (fuel + 1) pos ctx (List.ofFn part) state (p :: rest) pos' middle →
        ∀ key, G.Curtails input ⟨p, fuel + 1, pos', ctx.carried pos pos', middle⟩ key → keys key :=
    fun p rest pos' middle hat key hkey => hcurtails key (hkey.of_enters (.row count part hat))
  have hat : G.RowAt input (fuel + 1) pos ctx (List.ofFn part) state (List.ofFn part) pos state :=
    .start
  rw [run_row] at hrun ⊢
  generalize List.ofFn part = parts at hparts hentered hat hrun ⊢
  cases parts with
  | nil =>
      obtain ⟨rfl, rfl⟩ := Eval.pure_eq_done.1 hrun
      exact ⟨.of_empty rfl, hstate, rfl⟩
  | cons p rest =>
      have hp := hparts p List.mem_cons_self
      have hpart := hentered p rest pos state hat
      rw [Context.carried_self] at hpart
      rcases Run.row_cons_eq_done.1 hrun with
        ⟨e, hfirst, rfl⟩ | ⟨s, middle, hfirst, others, hrest, rfl⟩
      · obtain ⟨huses, hafter, hfirst'⟩ := hp hpart hstate hctx hfirst
        exact ⟨huses.congr rfl, hafter, Run.row_cons_eq_done.2 (.inl ⟨e, hfirst', rfl⟩)⟩
      · obtain ⟨huses, hmiddle, hfirst'⟩ := hp hpart hstate hctx hfirst
        have hfirst'' := hfirst
        rw [← Context.carried_self ctx pos] at hfirst''
        obtain ⟨hothers, hafter, hrest'⟩ :=
          rowFrom (fun q hq => hparts q (List.mem_cons_of_mem _ hq)) hctx hentered
            (hat.next hfirst'') hmiddle huses hrest
        refine ⟨hothers.congr (others.used_map _), hafter, ?_⟩
        exact Run.row_cons_eq_done.2 (.inr ⟨s, middle, hfirst', others, hrest', rfl⟩)

/-! ### Repetition -/

/-- The rounds that follow one that moved on run under the empty context, whatever came before. -/
theorem limited_manyFrom {start pos rounds : Nat} {ctx : Context} {state middle after : State S T}
    {o : Outcome (List α)} (hp : G.DependsOnly input T keys fuel p)
    (hcurtails : ∀ pos under middle, G.ManyAt input fuel p start ctx state pos under middle →
      ∀ key, G.Curtails input ⟨p, fuel, pos, under, middle⟩ key → keys key)
    (hat : G.ManyAt input fuel p start ctx state pos ∅ middle) (hmiddle : middle.Limited keys)
    (hrun : Run.manyFrom (G.run input fuel p) rounds pos middle = .done o after) :
    after.Limited keys := by
  induction rounds generalizing pos middle o with
  | zero => cases hrun
  | succ rounds ih =>
      have hround := hcurtails pos ∅ middle hat
      rcases Run.manyFrom_succ_eq_done.1 hrun with
        ⟨e, hfirst, -⟩ | ⟨s, hfirst, -, -⟩ | ⟨s, next, hfirst, hmoved, others, hrest, -⟩
      · exact (hp hround hmiddle (.refl keys ∅) hfirst).2.1
      · exact (hp hround hmiddle (.refl keys ∅) hfirst).2.1
      · have hnext := (hp hround hmiddle (.refl keys ∅) hfirst).2.1
        exact ih (hat.next hfirst hmoved) hnext hrest

theorem many (hp : G.DependsOnly input T keys (fuel + 1) p) :
    G.DependsOnly input T keys (fuel + 1) (.many p) := by
  intro pos ctx ctx' state o after hcurtails hstate hctx h
  have hentered : ∀ pos' under middle,
      G.ManyAt input (fuel + 1) p pos ctx state pos' under middle →
        ∀ key, G.Curtails input ⟨p, fuel + 1, pos', under, middle⟩ key → keys key :=
    fun pos' under middle hat key hkey => hcurtails key (hkey.of_enters (.many p hat))
  have hround := hentered pos ctx state .start
  rw [run_many] at h ⊢
  rcases Run.many_eq_done.1 h with
    ⟨e, hfirst, rfl⟩ | ⟨s, hfirst, hhere, rfl⟩ | ⟨s, middle, hfirst, hmoved, others, hrest, rfl⟩
  · obtain ⟨huses, hafter, hrun⟩ := hp hround hstate hctx hfirst
    refine ⟨?_, hafter, Run.many_eq_done.2 (.inl ⟨e, hrun, rfl⟩)⟩
    split
    · exact huses
    · exact huses
  · obtain ⟨huses, hafter, hrun⟩ := hp hround hstate hctx hfirst
    exact ⟨huses, hafter, Run.many_eq_done.2 (.inr (.inl ⟨s, hrun, hhere, rfl⟩))⟩
  · obtain ⟨huses, hmiddle, hrun⟩ := hp hround hstate hctx hfirst
    have hafter := limited_manyFrom hp hentered (ManyAt.start.next hfirst hmoved) hmiddle hrest
    refine ⟨huses.congr (Outcome.used_withUsed _ _), hafter, ?_⟩
    exact Run.many_eq_done.2 (.inr (.inr ⟨s, middle, hrun, hmoved, others, hrest, rfl⟩))

/-! ### Memoized rules -/

theorem memo [LawfulMemoTable T] {kind : S.Kind} (parity : Parity) (key : Key)
    {body : Parser S (S.Value kind)} (hbody : G.DependsOnly input T keys (fuel + 1) body) :
    G.DependsOnly input T keys (fuel + 1) (.memo kind parity key body) := by
  intro pos ctx ctx' state o after hcurtails hstate hctx h
  rw [run_memo] at h ⊢
  rcases Run.memo_eq_done.1 h with
    ⟨under, hlookup, hreuse, rfl⟩ | ⟨hmissed, hdepth, rfl, rfl⟩ | ⟨hmissed, hdepth, hrefresh⟩
  -- Stored under some of the given keys only, the outcome may be reused under both or neither.
  · obtain ⟨huses, hunder⟩ := hstate kind key pos o under hlookup
    refine ⟨huses, hstate.of_memo rfl, Run.memo_of_hit hlookup ?_⟩
    rw [hctx.canReuse_eq hunder]
    exact hreuse
  -- Being curtailed here, the rule is among the given ones, so the other context tracks the same.
  · have hkey : keys key :=
      hcurtails key ⟨kind, parity, body, fuel + 1, pos, ctx, state, .refl, hmissed, hdepth⟩
    have hsame := hctx.depth_eq hkey
    have huses : ∀ other ∈ Used.single key, keys other := by
      intro other hother
      obtain rfl : other = key := List.mem_singleton.1 hother
      exact hkey
    refine ⟨huses, hstate.of_memo rfl, ?_⟩
    rw [Run.memo_of_missed (Run.missed_under hctx hstate hmissed), hsame, if_pos hdepth]
  -- The other context does not curtail it either, and the body runs deeper under both.
  · obtain ⟨hlimit, fresh, middle, hfresh, hkeep⟩ := Run.refresh_eq_done.1 hrefresh
    have hentered := fun key' hkey' => hcurtails key' (Curtails.of_enters hkey'
      (.memo parity key body hmissed hdepth (Nat.lt_of_succ_le hlimit)))
    obtain ⟨huses, hmiddle, hrun⟩ := hbody hentered hstate (hctx.deeper key) hfresh
    have hle := hctx.le key
    have hdepth' : ¬ Run.depthBound (input.remaining pos) < ctx'.depth key :=
      Nat.not_lt.2 (Nat.le_trans hle hdepth)
    have hlimit' : ctx'.depth key + 1 ≤ Context.depthLimit :=
      Nat.le_trans (Nat.succ_le_succ hle) hlimit
    have hkeep' := hkeep.trans (Run.keep_under hctx huses hmiddle).symm
    obtain ⟨rfl, rfl⟩ := Prod.mk.inj hkeep
    refine ⟨Run.usesOnly_keep input parity key pos ctx huses hmiddle,
      Run.limited_keep huses hmiddle, ?_⟩
    rw [Run.memo_of_missed (Run.missed_under hctx hstate hmissed), if_neg hdepth']
    exact Run.refresh_eq_done.2 ⟨hlimit', fresh, middle, hrun, hkeep'⟩

/-! ### Rules -/

theorem ref {rule : S.Rule} (hless : ∀ body : Parser S (S.Value (S.kind rule)),
      G.define rule = some body → G.DependsOnly input T keys fuel body) :
    G.DependsOnly input T keys (fuel + 1) (.ref rule) := by
  intro pos ctx ctx' state o after hcurtails hstate hctx h
  rw [run_ref] at h ⊢
  obtain ⟨body, hdefine, hbody⟩ := call_rule_eq_done.1 h
  obtain ⟨huses, hafter, hrun⟩ :=
    hless body hdefine (fun key hkey => hcurtails key (hkey.of_enters (.ref hdefine))) hstate hctx
      hbody
  exact ⟨huses, hafter, call_rule_eq_done.2 ⟨body, hdefine, hrun⟩⟩

theorem delay {cell : Nat} {rule : S.Rule}
    (hless : ∀ (workshop : Workshop) (body : Parser S (S.Value (S.kind rule))),
      (G.copy rule workshop).1 = .ok body → G.DependsOnly input T keys fuel body) :
    G.DependsOnly input T keys (fuel + 1) (.delay cell rule) := by
  intro pos ctx ctx' state o after hcurtails hstate hctx h
  rw [run_delay] at h ⊢
  obtain ⟨body, next, hfill, hbody⟩ := call_copy_eq_done.1 h
  obtain ⟨⟨workshop, hcopy⟩, hmemo⟩ := fill_eq_ok hfill
  obtain ⟨huses, hafter, hrun⟩ :=
    hless workshop body hcopy (fun key hkey => hcurtails key (hkey.of_enters (.copy hfill)))
      (hstate.of_memo hmemo) hctx hbody
  exact ⟨huses, hafter, call_copy_eq_done.2 ⟨body, next, hfill, hrun⟩⟩

end DependsOnly

/-! ## Whole runs -/

variable [LawfulMemoTable T]

theorem dependsOnly (keys : Key → Prop) {p : Parser S α} (hp : G.Built Parser.Offered p)
    (fuel : Nat) : G.DependsOnly input T keys fuel p := by
  -- Rules are called with one unit of fuel less; all else is a part of its parser.
  induction fuel generalizing α with
  | zero =>
      intro pos ctx ctx' state o after _ _ _ h
      cases h
  | succ fuel ihfuel =>
      induction p with
      | unit | fail | all => exact .of_pure rfl fun _ => rfl
      | literal | token | find | eof | scan => exact .of_pure rfl fun _ => Run.used_found _ _ _
      | custom | count => exact hp.holds.elim
      | tryMap f p ih => exact (ih (hp.part (.tryMap f p))).tryMap f
      | zipWith f p q ihp ihq =>
          exact (ihp (hp.part (.zipWithLeft f p q))).zipWith f (ihq (hp.part (.zipWithRight f p q)))
      | bind p f ihp ihf =>
          exact (ihp (hp.part (.bindFirst p f))).bind fun a => ihf a (hp.part (.bindNext p f a))
      | alt p q ihp ihq => exact (ihp (hp.part (.altLeft p q))).alt (ihq (hp.part (.altRight p q)))
      | label name p ih => exact (ih (hp.part (.label name p))).label name
      | commit p ih => exact (ih (hp.part (.commit p))).commit
      | look p ih => exact (ih (hp.part (.look p))).look
      | row count part ih => exact .row fun i => ih i (hp.part (.row count part i))
      | many p ih => exact (ih (hp.part (.many p))).many
      | memo kind parity key p ih => exact (ih (hp.part (.memo kind parity key p))).memo parity key
      | ref rule => exact .ref fun body hdefine => ihfuel (hp.rule hdefine)
      | delay cell rule => exact .delay fun workshop body hcopy => ihfuel (hp.copy hcopy)

/-- A run from a state without entries comes to the same outcome and state under every context that
tracks the same for the rules that it curtailed, and no greater depth for any other.  All keys that
its outcome used are keys of such rules. -/
theorem run_under_of_curtails {p : Parser S α} (hp : G.Built Parser.Offered p) {fuel pos : Nat}
    {ctx ctx' : Context} {state after : State S T} {o : Outcome α} (hstate : state.NoEntries)
    (hctx : ctx'.Under (G.Curtails input ⟨p, fuel, pos, ctx, state⟩) ctx)
    (hrun : G.run input fuel p pos ctx state = .done o after) :
    G.run input fuel p pos ctx' state = .done o after ∧
      ∀ key ∈ o.used, G.Curtails input ⟨p, fuel, pos, ctx, state⟩ key := by
  obtain ⟨huses, -, hrun'⟩ :=
    dependsOnly (G.Curtails input ⟨p, fuel, pos, ctx, state⟩) hp fuel (fun _ hkey => hkey)
      (.of_noEntries hstate _) hctx hrun
  exact ⟨hrun', huses⟩

/-- A letter behind nothing, inside three levels of its rule: being curtailed there, it comes to one
letter, and so it does if nothing but the depth of a strange rule is different. -/
theorem run_under_of_curtails_letter :
    let p : Parser (TextSignature Unit String) String := Parser.empty.next letter
    let ctx := (∅ : Context).withDepth (.id 0) 3
    let strange := ctx.withDepth (.id 1) 5
    ∃ after : State (TextSignature Unit String) OrderedTable,
      letters.run (Input.ofText "xx") 20 p 0 strange .new = .done (.success ⟨"x", 1, ∅⟩) after ∧
      letters.run (Input.ofText "xx") 20 p 0 ctx .new = .done (.success ⟨"x", 1, ∅⟩) after := by
  intro p ctx strange
  let check (o : Outcome String) (_ : State (TextSignature Unit String) OrderedTable) : Bool :=
    decide (o = .success ⟨"x", 1, ∅⟩)
  have hcheck :
      (letters.run (Input.ofText "xx") 20 p 0 strange .new).finishedWith check = true := by
    decide +kernel
  obtain ⟨o, after, hrun, ho⟩ := Result.exists_of_finishedWith hcheck
  obtain rfl := of_decide_eq_true (p := o = _) ho
  have hp : p.All Parser.Offered := ⟨trivial, trivial, trivial⟩
  -- The grammar has one memoized parser, so no other key than its own is ever curtailed.
  have hkeys : ∀ key, letters.Curtails (Input.ofText "xx")
      ⟨p, 20, 0, strange, (.new : State _ OrderedTable)⟩ key → key = .id 0 := by
    have other {α : Type} {q : Parser (TextSignature Unit String) α} (hq : q.node? = none) :
        ∀ node, q.node? = some node → node.key = .id 0 := by
      intro node hnode
      rw [hq] at hnode
      cases hnode
    have hbuilt : letters.Built (fun q => ∀ node, q.node? = some node → node.key = .id 0) p := by
      refine Built.of_all ⟨other rfl, other rfl, other rfl⟩ (fun rule body hdefine => ?_) ?_
      · obtain rfl := Option.some.inj hdefine
        refine ⟨?_, other rfl, ⟨other rfl, other rfl, other rfl, other rfl, other rfl⟩, other rfl,
          other rfl⟩
        rintro node ⟨⟩
        rfl
      · intro rule workshop body hcopy
        cases hcopy
    intro key hcurtails
    obtain ⟨node, huses, rfl⟩ := hcurtails.uses
    exact hbuilt node.parser huses node rfl
  have hctx : ctx.Under (letters.Curtails (Input.ofText "xx")
      ⟨p, 20, 0, strange, (.new : State _ OrderedTable)⟩) strange := by
    refine ⟨fun key hkey => ?_, fun key => ?_⟩
    · obtain rfl := hkeys key hkey
      rfl
    · have hstrange : strange.depth key = if key = .id 1 then 5 else ctx.depth key :=
        Context.depth_withDepth 5
      rw [hstrange]
      split
      next h =>
        rw [h]
        decide
      next => exact Nat.le_refl _
  exact ⟨after, hrun, (run_under_of_curtails (built_letters hp) State.noEntries_new hctx hrun).1⟩

/-- Without the three levels around it, the same letter behind nothing comes to two letters.
Neither run says that it used the rule, so both contexts agree on all that was used. -/
theorem used_incomplete_letter :
    let p : Parser (TextSignature Unit String) String := Parser.empty.next letter
    let ctx := (∅ : Context).withDepth (.id 0) 3
    ∃ after after' : State (TextSignature Unit String) OrderedTable,
      letters.run (Input.ofText "xx") 20 p 0 ctx .new = .done (.success ⟨"x", 1, ∅⟩) after ∧
      letters.run (Input.ofText "xx") 20 p 0 ∅ .new = .done (.success ⟨"xx", 2, ∅⟩) after' ∧
      (∅ : Context).Under (fun key => key ∈ (∅ : Used)) ctx := by
  intro p ctx
  let check (expected : Outcome String) (o : Outcome String)
      (_ : State (TextSignature Unit String) OrderedTable) : Bool := decide (o = expected)
  have hdeep : (letters.run (Input.ofText "xx") 20 p 0 ctx .new).finishedWith
      (check (.success ⟨"x", 1, ∅⟩)) = true := by
    decide +kernel
  have hfresh : (letters.run (Input.ofText "xx") 20 p 0 ∅ .new).finishedWith
      (check (.success ⟨"xx", 2, ∅⟩)) = true := by
    decide +kernel
  obtain ⟨o, after, hrun, ho⟩ := Result.exists_of_finishedWith hdeep
  obtain ⟨o', after', hrun', ho'⟩ := Result.exists_of_finishedWith hfresh
  obtain rfl := of_decide_eq_true (p := o = _) ho
  obtain rfl := of_decide_eq_true (p := o' = _) ho'
  exact ⟨after, after', hrun, hrun', fun key hkey => (Used.not_mem_empty key hkey).elim,
    fun _ => Nat.zero_le _⟩

end Grammar

end LeftRec
