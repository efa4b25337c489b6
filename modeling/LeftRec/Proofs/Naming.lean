import LeftRec.Proofs.Congruence
import LeftRec.Proofs.Erasure
import LeftRec.Proofs.Fatality
import LeftRec.Proofs.Recursion

/-!
# Naming — what recursive rules depend on

Rules that call one another before anything else end in a curtailment, in an entry of one of them,
or in what one of them came to.  So all their outcomes name one of their keys.  If every body inside
a body also tracks those keys more deeply, then nothing that is stored inside may be reused around
the body, and the parity of these rules never counts.
-/

namespace LeftRec

variable {S : Signature} {T : Type → Type} {α β γ : Type} {keys : List Key}

/-! ## Outcomes that name a key -/

/-- The outcome depends on one of the keys. -/
def Outcome.Names (keys : List Key) (o : Outcome α) : Prop :=
  ∃ key ∈ keys, key ∈ o.used

theorem Outcome.Names.mono {o : Outcome α} {o' : Outcome β} (h : o.Names keys)
    (hused : ∀ key ∈ o.used, key ∈ o'.used) : o'.Names keys := by
  obtain ⟨key, hkey, hmem⟩ := h
  exact ⟨key, hkey, hused key hmem⟩

/-- All that is stored under one of the keys names one of them. -/
def Named [MemoTable T] (keys : List Key) (table : T (Entry S)) : Prop :=
  ∀ slot entry, MemoTable.get? table slot = some entry → slot.1 ∈ keys → entry.outcome.Names keys

theorem State.NoEntries.named [MemoTable T] {state : State S T} (h : state.NoEntries) :
    Named keys state.memo := by
  intro slot entry hget
  rw [h.get?_eq_none slot] at hget
  cases hget

/-- What the first of two parts depends on, both do. -/
theorem Used.mem_sequenced_left {start stop : Nat} {first second : Used} {key : Key}
    (h : key ∈ first) : key ∈ Used.sequenced start stop first second := by
  unfold Used.sequenced
  split
  · exact Used.mem_union.2 (.inl h)
  · exact h

/-! ## First parts -/

namespace Run

/-- Where the whole finishes, the part was run first, and the whole depends on all that the part
does. -/
def Opens (part : Run S T α) (whole : Run S T β) : Prop :=
  ∀ ⦃pos ctx state o after⦄, whole pos ctx state = .done o after →
    ∃ first middle, part pos ctx state = .done first middle ∧ ∀ key ∈ first.used, key ∈ o.used

variable {p : Run S T α} {q : Run S T β}

theorem Wraps.opens {finish : Nat → Outcome α → Outcome β → Prop} (h : Wraps finish p q)
    (hused : ∀ pos first o, finish pos first o → o.used = first.used) : Opens p q := by
  intro pos ctx state o after hrun
  obtain ⟨first, hfirst, hfinish⟩ := h.1 hrun
  refine ⟨first, after, hfirst, fun key hkey => ?_⟩
  rw [hused pos first o hfinish]
  exact hkey

theorem Chains.opens {join : Success α → Outcome β → Outcome γ} {next : α → Run S T β}
    {whole : Run S T γ} (h : Chains join p next whole) : Opens p whole := by
  intro pos ctx state o after hrun
  rcases h.1 hrun with ⟨e, hfirst, rfl⟩ | ⟨s, middle, hfirst, second, -, rfl⟩
  · exact ⟨_, after, hfirst, fun _ hkey => hkey⟩
  · refine ⟨_, middle, hfirst, fun key hkey => ?_⟩
    rw [Outcome.after, Outcome.used_withUsed]
    exact Used.mem_sequenced_left hkey

theorem opens_tryMap (f : α → Except Fault β) (p : Run S T α) : Opens p (tryMap f p) := by
  refine (wraps_tryMap f p).opens fun pos first o hfinish => ?_
  rcases hfinish with ⟨e, rfl, rfl⟩ | ⟨s, value, rfl, -, rfl⟩
  · rfl
  · rfl

theorem opens_alt (p q : Run S T α) : Opens p (alt p q) := by
  intro pos ctx state o after hrun
  rcases alt_eq_done.1 hrun with
    ⟨s, hfirst, rfl⟩ | ⟨e, hfirst, -, rfl⟩ | ⟨e, middle, hfirst, -, hsecond⟩
  · exact ⟨_, after, hfirst, fun _ hkey => hkey⟩
  · exact ⟨_, after, hfirst, fun _ hkey => hkey⟩
  · refine ⟨_, middle, hfirst, fun key hkey => ?_⟩
    rcases hsecond with ⟨s, -, rfl⟩ | ⟨second, -, rfl⟩
    · exact Used.mem_union.2 (.inl hkey)
    · show key ∈ (e.merge second).used
      rw [Failure.used_merge]
      exact Used.mem_union.2 (.inl hkey)

theorem opens_label (name : String) (p : Run S T α) : Opens p (label name p) := by
  refine (wraps_label name p).opens fun pos first o hfinish => ?_
  rw [hfinish]
  exact first.used_mapFailure (used_relabel name pos)

theorem opens_commit (p : Run S T α) : Opens p (commit p) := by
  refine (wraps_commit p).opens fun pos first o hfinish => ?_
  rw [hfinish]
  exact first.used_mapFailure fun _ => rfl

theorem opens_look (p : Run S T α) : Opens p (look p) :=
  (wraps_look p).opens fun pos first o hfinish => by rw [hfinish]; rfl

theorem opens_many (rounds : Nat) (p : Run S T α) : Opens p (many rounds p) := by
  intro pos ctx state o after hrun
  rcases many_eq_done.1 hrun with
    ⟨e, hfirst, rfl⟩ | ⟨s, hfirst, -, rfl⟩ | ⟨s, middle, hfirst, -, others, -, rfl⟩
  · refine ⟨_, after, hfirst, fun key hkey => ?_⟩
    split
    · exact hkey
    · exact hkey
  · exact ⟨_, after, hfirst, fun _ hkey => hkey⟩
  · refine ⟨_, middle, hfirst, fun key hkey => ?_⟩
    rw [Outcome.used_withUsed]
    exact hkey

end Run

/-! ## Rules that call one another first -/

namespace Grammar

variable {G : Grammar S} {input : Input S.Token}

variable (G) in
/-- What the parser runs first is memoized under one of the keys. -/
def Led (keys : List Key) : {α : Type} → Parser S α → Prop
  | _, .tryMap _ p => Led keys p
  | _, .zipWith _ p _ => Led keys p
  | _, .bind p _ => Led keys p
  | _, .alt p _ => Led keys p
  | _, .label _ p => Led keys p
  | _, .commit p => Led keys p
  | _, .look p => Led keys p
  | _, .many p => Led keys p
  | _, .memo _ _ key _ => key ∈ keys
  | _, .ref rule => G.MemoizedUnder keys rule
  | _, _ => False

variable (G) in
/-- If the parser is memoized under one of the keys, then what its body runs first is so, too. -/
def Recurrent (keys : List Key) (p : Parser S α) : Prop :=
  ∀ node, p.node? = some node → node.key ∈ keys → G.Led keys node.body

variable [MemoTable T] {root v w u : Visit S T}

variable (G input) in
/-- The visit leaves named entries, and names a key itself if its parser is led by the keys. -/
structure Naming (keys : List Key) (v : Visit S T) : Prop where
  leaves : (G.visit input v).Leaves (Named keys ·.memo)
  names : G.Led keys v.parser → ∀ o after, G.visit input v = .done o after → o.Names keys

/-- A parser that is led by the keys names one of them, if what it enters is naming. -/
theorem Led.names (hled : G.Led keys v.parser) (hrecurrent : G.Recurrent keys v.parser)
    (hstate : Named keys v.state.memo)
    (hentered : ∀ w, G.Enters input v w → Named keys w.state.memo → G.Naming input keys w)
    {o : Outcome v.α} {after : State S T} (hrun : G.visit input v = .done o after) :
    o.Names keys := by
  obtain ⟨parser, fuel, pos, ctx, state⟩ := v
  -- A first part begins where the whole does, with the same table.
  have hopens {α : Type} {part : Parser S α} {whole : Run S T _}
      (henters : G.Enters input ⟨parser, fuel, pos, ctx, state⟩ ⟨part, fuel, pos, ctx, state⟩)
      (hpart : G.Led keys part) (hwhole : G.run input fuel parser = whole)
      (h : Run.Opens (G.run input fuel part) whole) : o.Names keys := by
    rw [← hwhole] at h
    obtain ⟨first, middle, hfirst, hused⟩ := h hrun
    exact ((hentered _ henters hstate).names hpart first middle hfirst).mono hused
  cases parser with
  | unit | fail | literal | token | find | all | eof | scan | custom | count | row | delay =>
      exact hled.elim
  | tryMap f p => exact hopens (.tryMap f p) hled (run_tryMap f) (Run.opens_tryMap f _)
  | zipWith f p q =>
      exact hopens (.zipWithLeft f p q) hled (run_zipWith f) (Run.chains_zipWith f _ _).opens
  | bind p f => exact hopens (.bindFirst p f) hled (run_bind f) (Run.chains_bind _ _).opens
  | alt p q => exact hopens (.altLeft p q) hled (run_alt q) (Run.opens_alt _ _)
  | label name p => exact hopens (.label name p) hled (run_label name) (Run.opens_label name _)
  | commit p => exact hopens (.commit p) hled run_commit (Run.opens_commit _)
  | look p => exact hopens (.look p) hled run_look (Run.opens_look _)
  | many p =>
      cases fuel with
      | zero => cases hrun
      | succ fuel => exact hopens (.many p .start) hled run_many (Run.opens_many fuel _)
  | memo kind parity key p =>
      cases fuel with
      | zero => cases hrun
      | succ fuel =>
          change Run.memo input kind parity key (G.run input (fuel + 1) p) pos ctx state = _ at hrun
          -- An entry is named, and a curtailment names the key.
          rcases Run.memo_eq_done.1 hrun with
            ⟨under, hlookup, -, -⟩ | ⟨-, -, rfl, -⟩ | ⟨hmissed, hdepth, hrefresh⟩
          · exact hstate _ _ (State.lookup_eq_some.1 hlookup) hled
          · exact ⟨key, hled, List.mem_singleton.2 rfl⟩
          · obtain ⟨hlimit, fresh, middle, hbody, hkeep⟩ := Run.refresh_eq_done.1 hrefresh
            have ho : o = (Run.keep input kind parity key pos ctx fresh middle).1 :=
              congrArg Prod.fst hkeep
            have hnaming := hentered _ (.memo parity key p hmissed hdepth hlimit) hstate
            -- What is kept is fresh from the body, or was found in the table that the body left.
            rcases Run.keep_fst_cases input parity key pos ctx fresh middle with
              hkept | ⟨s, under, hlookup, hkept⟩
            · rw [ho, hkept]
              exact hnaming.names (hrecurrent _ rfl hled) fresh middle hbody
            · rw [ho, hkept]
              exact hnaming.leaves.of_done hbody _ _ (State.lookup_eq_some.1 hlookup) hled
  | ref rule =>
      cases fuel with
      | zero => cases hrun
      | succ fuel =>
          obtain ⟨parity, key, hkey, body, hdefine⟩ := hled
          have hcall : G.run input fuel (.memo (S.kind rule) parity key body) pos ctx state =
              .done o after := by
            rw [← call_rule hdefine]
            exact hrun
          exact (hentered _ (.ref hdefine) hstate).names hkey o after hcall

variable [LawfulMemoTable T]

/-- All that is visited in the course of a run with named entries is naming. -/
theorem Visits.naming (hcomposed : G.Built Parser.Composed root.parser)
    (hrecurrent : G.Built (G.Recurrent keys) root.parser) (hvisits : G.Visits input root v)
    (hstate : Named keys v.state.memo) : G.Naming input keys v := by
  suffices hall : ∀ v, G.Visits input root v → Named keys v.state.memo → G.Naming input keys v from
    hall v hvisits hstate
  refine visit_induction G input fun v ih hvisits hstate => ?_
  have hentered : ∀ w, G.Enters input v w → Named keys w.state.memo → G.Naming input keys w :=
    fun w henters => ih w henters (hvisits.tail henters)
  have hnames (hled : G.Led keys v.parser) (o : Outcome v.α) (after : State S T)
      (hrun : G.visit input v = .done o after) : o.Names keys :=
    hled.names (hrecurrent _ hvisits.uses) hstate hentered hrun
  refine ⟨leaves_visit (hcomposed.of_uses hvisits.uses).holds hstate
    (fun w henters hw => (hentered w henters hw).leaves) ?_, hnames⟩
  -- What the visit stores is its own outcome.
  intro slot entry table hstores htable other found hfound hkey
  rw [LawfulMemoTable.get?_insert] at hfound
  split at hfound
  next hsame =>
    obtain rfl := hsame
    obtain rfl := Option.some.inj hfound
    cases hstores with
    | memo hmissed hdepth hrun => exact hnames hkey _ _ hrun
  next => exact htable other found hfound hkey

/-- Where a visit begins, the entries are named, if they are where the run begins. -/
theorem Visits.named (hcomposed : G.Built Parser.Composed root.parser)
    (hrecurrent : G.Built (G.Recurrent keys) root.parser) (hroot : Named keys root.state.memo)
    (hvisits : G.Visits input root v) : Named keys v.state.memo := by
  induction hvisits with
  | refl => exact hroot
  | tail hvisits henters ih =>
      exact henters.holds ih fun u hu hstate =>
        (Visits.naming hcomposed hrecurrent (hvisits.tail hu) hstate).leaves

/-! ## Bodies inside bodies -/

/-- Inside its body, a memoized parser is tracked more deeply. -/
theorem depth_lt_of_enters {node : MemoNode S} (hv : G.OnCourse (.ahead input) v)
    (hnode : v.parser.node? = some node) (henters : G.Enters input v w)
    (hvisits : G.Visits input w u) (hpos : u.pos = v.pos) :
    v.ctx.depth node.key < u.ctx.depth node.key := by
  obtain ⟨hw, -⟩ := hv.enters henters
  cases henters with
  | memo parity key p =>
      obtain rfl := Option.some.inj hnode
      have hle := (hw.ctx_le hvisits hpos).depth_le key
      rw [Context.depth_withDepth, if_pos rfl] at hle
      exact hle
  | count | tryMap | zipWithLeft | zipWithRight | bindFirst | bindNext | altLeft | altRight | label
  | commit | look | row | many | ref | copy => cases hnode

variable (G) in
/-- The parser's outermost operation neither memoizes nor copies, and calls no rule but those that
are memoized under the key. -/
def Toward (key : Key) : {α : Type} → Parser S α → Prop
  | _, .memo .. => False
  | _, .delay .. => False
  | _, .ref rule => G.MemoizedUnder [key] rule
  | _, _ => True

/-- A body that can only be left through a key tracks that key more deeply at the next body under
another key. -/
theorem depth_lt_of_toward {node : MemoNode S} {key : Key} (hw : G.OnCourse (.ahead input) w)
    (htoward : w.parser.All (G.Toward key)) (hvisits : G.Visits input w u)
    (hnode : u.parser.node? = some node) (hother : node.key ≠ key) (hpos : u.pos = w.pos) :
    w.ctx.depth key < u.ctx.depth key := by
  -- The induction is from the first visit on, since what it may enter is known of that one.
  induction hvisits using Relation.ReflTransGen.head_induction_on with
  | refl =>
      obtain ⟨parser, fuel, pos, ctx, state⟩ := u
      cases parser with
      | memo => exact htoward.holds.elim
      | unit | fail | literal | token | find | all | eof | scan | custom | count | tryMap | zipWith
      | bind | alt | label | commit | look | row | many | ref | delay => cases hnode
  | @head w inner henters hrest ih =>
      obtain ⟨hinner, hle⟩ := hw.enters henters
      -- Positions never go back, so what lies between the two is at the same position.
      have hle : w.pos ≤ inner.pos := hle
      have hle' : inner.pos ≤ u.pos := (hinner.visits hrest).2
      have hsame : inner.pos = w.pos := by omega
      rcases henters.part_or_less with ⟨-, hpart⟩ | ⟨hless, -⟩
      · exact Nat.lt_of_le_of_lt ((henters.ctx_le hw hsame).depth_le key)
          (ih hinner (htoward.part hpart) (by omega))
      · cases henters with
        | count | tryMap | zipWithLeft | zipWithRight | bindFirst | bindNext | altLeft | altRight
        | label | commit | look | row | many | memo => exact (Nat.lt_irrefl _ hless).elim
        | copy => exact htoward.elim
        | ref hdefine =>
            obtain ⟨parity, own, hown, body, hmemo⟩ := htoward
            obtain rfl := Option.some.inj (hdefine.symm.trans hmemo)
            obtain rfl := List.mem_singleton.1 hown
            -- The call leads into the body under the key.
            rcases Relation.ReflTransGen.cases_head hrest with rfl | ⟨next, hnext, hlast⟩
            · obtain rfl := Option.some.inj hnode
              exact (hother rfl).elim
            · exact depth_lt_of_enters hinner rfl hnext hlast hpos

/-- Inside a body that leads into another key, that key is tracked more deeply at the next body that
is not its own. -/
theorem depth_lt_of_body {node own : MemoNode S} {key : Key} (hv : G.OnCourse (.ahead input) v)
    (hnode : v.parser.node? = some node) (htoward : node.body.All (G.Toward key))
    (henters : G.Enters input v w) (hvisits : G.Visits input w u)
    (hown : u.parser.node? = some own) (hother : own.key ≠ key) (hpos : u.pos = v.pos) :
    v.ctx.depth key < u.ctx.depth key := by
  obtain ⟨hw, -⟩ := hv.enters henters
  have hle := henters.ctx_le hv
  cases henters with
  | memo parity own p =>
      obtain rfl := Option.some.inj hnode
      exact Nat.lt_of_le_of_lt ((hle rfl).depth_le key)
        (depth_lt_of_toward hw htoward hvisits hown hother hpos)
  | count | tryMap | zipWithLeft | zipWithRight | bindFirst | bindNext | altLeft | altRight | label
  | commit | look | row | many | ref | copy => cases hnode

/-! ## Parities that do not count -/

/-- No body under one of the keys meets a success of its own recursion that may be reused around it,
if further inside all of the keys are tracked more deeply. -/
theorem not_contested {node : MemoNode S} (hcomposed : G.Built Parser.Composed root.parser)
    (hrecurrent : G.Built (G.Recurrent keys) root.parser)
    (hroot : Named keys root.state.memo) (hvisits : G.Visits input root v)
    (hnode : v.parser.node? = some node) (hkey : node.key ∈ keys)
    (hdeeper : ∀ w u own, G.Enters input v w → G.Visits input w u → u.parser.node? = some own →
      own.key = node.key → u.pos = v.pos → ∀ key ∈ keys, v.ctx.depth key < u.ctx.depth key) :
    ¬ G.Contested input v := by
  intro hcontested
  cases hcontested with
  | @memo kind parity key p fuel pos ctx under state middle e s hmissed hdepth hlimit hbody hlookup
      hreuse =>
    obtain rfl := Option.some.inj hnode
    have henters : G.Enters input ⟨.memo kind parity key p, fuel, pos, ctx, state⟩
        ⟨p, fuel, pos, ctx.withDepth key (ctx.depth key + 1), state⟩ :=
      .memo parity key p hmissed hdepth hlimit
    have hpasses : G.Passes input
        ⟨p, fuel, pos, ctx.withDepth key (ctx.depth key + 1), state⟩ middle :=
      ⟨_, .refl, .inr (congrArg Result.state? hbody)⟩
    -- The success was not there before, so it was stored inside the body.
    rcases hpasses.provenance (hcomposed.of_uses (Visits.uses (hvisits.tail henters)))
      (State.lookup_eq_some.1 hlookup) with hold | ⟨u, hinside, hstores⟩
    · have hnone := hmissed _ _ (State.lookup_eq_some.2 hold)
      rw [hreuse] at hnone
      cases hnone
    · have hall : G.Visits input root u := (hvisits.tail henters).trans hinside
      have hnaming := Visits.naming hcomposed hrecurrent hall
        (Visits.named hcomposed hrecurrent hroot hall)
      cases hstores with
      | memo _ _ hrun =>
          obtain ⟨k, hk, hused⟩ := hnaming.names hkey _ _ hrun
          have hless := hdeeper _ _ _ henters hinside rfl rfl rfl k hk
          have hle := Context.depth_le_of_canReuse hreuse hused
          exact Nat.not_le.2 hless hle

end Grammar

end LeftRec
